import Credential.Cipher.Block

/-!
# Modes of operation

CBC and ECB work on whole blocks. CFB and OFB combine the text with a stream of whole
encrypted blocks, of which a last partial block of the text uses the start. Each mode has
an encrypting and a decrypting direction on the blocks of a text; `previous` is the block
before the first one, which is the initial vector at the start.
-/

namespace Credential.Cipher

/-- A mode of operation. -/
inductive Mode where
  | cbc
  | ecb
  | cfb
  | ofb
  deriving DecidableEq, Repr

namespace Mode

/-- All modes. -/
def all : List Mode := [.cbc, .ecb, .cfb, .ofb]

/-- The name of a mode. -/
def name : Mode → String
  | .cbc => "CBC"
  | .ecb => "ECB"
  | .cfb => "CFB"
  | .ofb => "OFB"

/-- Whether the text is padded to whole blocks. -/
def isPadded : Mode → Bool
  | .cbc | .ecb => true
  | .cfb | .ofb => false

/-- Whether the mode uses an initial vector of one block. -/
def usesVector : Mode → Bool
  | .ecb => false
  | .cbc | .cfb | .ofb => true

end Mode

/-- CBC, decrypting. -/
def cbcDecrypt (cipher : Block) : (previous : Bytes) → List Bytes → Bytes
  | _, [] => []
  | previous, block :: rest =>
    Bytes.xor (cipher.decrypt block) previous ++ cbcDecrypt cipher block rest

/-- CBC, encrypting. -/
def cbcEncrypt (cipher : Block) : (previous : Bytes) → List Bytes → Bytes
  | _, [] => []
  | previous, block :: rest =>
    let encrypted := cipher.encrypt (Bytes.xor block previous)
    encrypted ++ cbcEncrypt cipher encrypted rest

/-- CFB over whole blocks, decrypting. -/
def cfbDecrypt (cipher : Block) : (previous : Bytes) → List Bytes → Bytes
  | _, [] => []
  | previous, block :: rest =>
    Bytes.xor block (cipher.encrypt previous) ++ cfbDecrypt cipher block rest

/-- CFB over whole blocks, encrypting. -/
def cfbEncrypt (cipher : Block) : (previous : Bytes) → List Bytes → Bytes
  | _, [] => []
  | previous, block :: rest =>
    let encrypted := Bytes.xor block (cipher.encrypt previous)
    encrypted ++ cfbEncrypt cipher encrypted rest

/-- OFB, in both directions. -/
def ofbStream (cipher : Block) : (previous : Bytes) → List Bytes → Bytes
  | _, [] => []
  | previous, block :: rest =>
    let stream := cipher.encrypt previous
    Bytes.xor block stream ++ ofbStream cipher stream rest

namespace Mode

/-- The text of a ciphertext, padding included. -/
def decrypt (mode : Mode) (cipher : Block) (vector data : Bytes) : Bytes :=
  let blocks := Bytes.blocks cipher.size data
  match mode with
  | .cbc => cbcDecrypt cipher vector blocks
  | .ecb => blocks.flatMap cipher.decrypt
  | .cfb => cfbDecrypt cipher vector blocks
  | .ofb => ofbStream cipher vector blocks

/-- The ciphertext of a text, padding included. -/
def encrypt (mode : Mode) (cipher : Block) (vector text : Bytes) : Bytes :=
  let blocks := Bytes.blocks cipher.size text
  match mode with
  | .cbc => cbcEncrypt cipher vector blocks
  | .ecb => blocks.flatMap cipher.encrypt
  | .cfb => cfbEncrypt cipher vector blocks
  | .ofb => ofbStream cipher vector blocks

end Mode

end Credential.Cipher
