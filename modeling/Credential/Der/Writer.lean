import Credential.Der.Reader

/-!
# Writing DER elements

The encoding of an element: its identifier octet, the shortest length field and the
content. `encodeNat` is the INTEGER of a natural number, with a leading zero octet where
the high bit would read as a sign.
-/

namespace Credential.Der

/-- The shortest length field. -/
def lengthOctets (n : Nat) : Bytes :=
  if n < 0x80 then [UInt8.ofNat n]
  else UInt8.ofNat (0x80 + byteLength n) :: Bytes.bigEndian (byteLength n) n

/-- An element with the given identifier octet. -/
def element (octet : UInt8) (content : Bytes) : Bytes :=
  octet :: (lengthOctets content.length ++ content)

/-- The element with the given tag and content. -/
def encode (tag : Tag) (content : Bytes) : Bytes :=
  element tag.octet content

/-- The shortest content octets of an INTEGER. -/
def natContent (n : Nat) : Bytes :=
  Bytes.bigEndian (bitLength n / 8 + 1) n

/-- The INTEGER of a natural number. -/
def encodeNat (n : Nat) : Bytes :=
  encode .integer (natContent n)

end Credential.Der
