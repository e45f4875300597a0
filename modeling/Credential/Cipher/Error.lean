/-!
# Faults of a decryption

One constructor a cause; `Error.message` is the wording.
-/

namespace Credential.Cipher

/-- Why a ciphertext does not decrypt. -/
inductive Error where
  | keyLength (count : Nat)
  | ivLength (expected actual : Nat)
  | ciphertextLength (count : Nat)
  | padding
  deriving DecidableEq, Repr

/-- The wording of a fault. -/
def Error.message : Error → String
  | .keyLength count => "invalid key length " ++ toString count
  | .ivLength expected actual =>
    "invalid IV length " ++ toString actual ++ ", expected " ++ toString expected
  | .ciphertextLength count =>
    "ciphertext length " ++ toString count ++ " is not a positive multiple of the block size"
  | .padding => "padding check failed"

end Credential.Cipher
