import Credential.Bytes

/-!
# Messages in blocks

MD5 and SHA-1 read a message in blocks of 64 octets. The message is followed by the octet
`0x80`, by zeros up to 8 octets before a block boundary, and by its length in bits. The
two differ in the octet order of that length and of the words of a block.
-/

namespace Credential.Digest

/-- The number of octets of a block. -/
def blockSize : Nat := 64

/-- The octets between a message of the given length and its length field. -/
def filling (length : Nat) : Bytes :=
  0x80 :: List.replicate ((119 - length % blockSize) % blockSize) 0

/-- The blocks of a message, whose length field is written by `lengthField`. -/
def messageBlocks (lengthField : Nat → Bytes) (message : Bytes) : List Bytes :=
  Bytes.blocks blockSize
    (message ++ filling message.length ++ lengthField (message.length * 8))

/-- The 32-bit words of a block, most significant octet first. -/
def bigEndianWords : Bytes → List UInt32
  | a :: b :: c :: d :: rest =>
    (a.toUInt32 <<< 24 ||| b.toUInt32 <<< 16 ||| c.toUInt32 <<< 8 ||| d.toUInt32)
      :: bigEndianWords rest
  | _ => []

/-- The 32-bit words of a block, least significant octet first. -/
def littleEndianWords : Bytes → List UInt32
  | a :: b :: c :: d :: rest =>
    (d.toUInt32 <<< 24 ||| c.toUInt32 <<< 16 ||| b.toUInt32 <<< 8 ||| a.toUInt32)
      :: littleEndianWords rest
  | _ => []

/-- The octets of a word, most significant first. -/
def bigEndianOctets (w : UInt32) : Bytes :=
  [(w >>> 24).toUInt8, (w >>> 16).toUInt8, (w >>> 8).toUInt8, w.toUInt8]

/-- The octets of a word, least significant first. -/
def littleEndianOctets (w : UInt32) : Bytes :=
  [w.toUInt8, (w >>> 8).toUInt8, (w >>> 16).toUInt8, (w >>> 24).toUInt8]

/-- The word with its bits moved `count` places up and around, for `count` from 1 to 31. -/
def rotateLeft (w count : UInt32) : UInt32 :=
  w <<< count ||| w >>> (32 - count)

end Credential.Digest
