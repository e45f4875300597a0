import Credential.Der.Reader
import Credential.Key.Error

/-!
# Key structures

What a key file holds. A DER key file is told by the tags of its first two elements:
RSAPrivateKey starts with two integers, PrivateKeyInfo with an integer and a sequence, and
EncryptedPrivateKeyInfo with a sequence.
-/

namespace Credential.Key

/-- The structure of a key file. -/
inductive Structure where
  | pkcs1
  | legacyEncryptedPkcs1
  | pkcs8
  | encryptedPkcs8
  deriving DecidableEq, Repr

namespace Structure

/-- The name of a structure in texts. -/
def title : Structure → String
  | .pkcs1 => "PKCS#1"
  | .legacyEncryptedPkcs1 => "PKCS#1 (legacy encrypted)"
  | .pkcs8 => "PKCS#8"
  | .encryptedPkcs8 => "PKCS#8 (encrypted)"

/-- The name of a structure in JSON. -/
def name : Structure → String
  | .pkcs1 => "pkcs1"
  | .legacyEncryptedPkcs1 => "legacy-encrypted-pkcs1"
  | .pkcs8 => "pkcs8"
  | .encryptedPkcs8 => "encrypted-pkcs8"

/-- All structures. -/
def all : List Structure := [.pkcs1, .legacyEncryptedPkcs1, .pkcs8, .encryptedPkcs8]

end Structure

/-- The structures that a DER key file can hold. -/
inductive DerStructure where
  | pkcs1
  | pkcs8
  | encryptedPkcs8
  deriving DecidableEq, Repr

/-- The structure of a DER key file, by the tags of its first two elements. -/
def DerStructure.classify (data : Bytes) : Except Error DerStructure := do
  let (content, _) ← Der.readSequence data
  match Der.peekTag content with
  | some .integer =>
    let (_, rest) ← Der.readAny content
    match Der.peekTag rest with
    | some .integer => return .pkcs1
    | some .sequence => return .pkcs8
    | _ => throw (.unrecognizedStructure .secondElement)
  | some .sequence => return .encryptedPkcs8
  | _ => throw (.unrecognizedStructure .firstElement)

end Credential.Key
