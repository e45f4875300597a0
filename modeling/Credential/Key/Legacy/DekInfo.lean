import Credential.Key.Legacy.Cipher
import Credential.Text.Hex

/-!
# Cipher and initial vector of an encrypted PEM block

The header `DEK-Info` holds a cipher name, a comma and the initial vector in hexadecimal
digits. The vector has at least 8 octets, since the first 8 are the salt of the key
derivation, and exactly one block if the cipher uses it as a vector.
-/

namespace Credential.Key.Legacy

/-- The number of octets of the salt. -/
def saltLength : Nat := 8

/-- The value of the header `DEK-Info`. -/
structure DekInfo where
  cipher : Cipher
  vector : Bytes
  deriving DecidableEq, Repr

namespace DekInfo

/-- The salt of the key derivation: the first octets of the vector. -/
def salt (info : DekInfo) : Bytes := info.vector.take saltLength

/-- Checks the length of the vector. -/
def checkVector (cipher : Cipher) (vector : Bytes) : Except Error Unit :=
  if vector.length < saltLength then
    .error (.invalidDekInfo (.vectorTooShort saltLength vector.length))
  else match cipher.vectorLength? with
    | none => .ok ()
    | some expected =>
      if vector.length = expected then .ok ()
      else .error (.invalidDekInfo (.vectorLength cipher.name expected vector.length))

/-- Reads the value of the header. -/
def ofText (s : String) : Except Error DekInfo := do
  match Text.splitAt? ',' s.toList with
  | none => throw (.invalidDekInfo (.noComma s))
  | some (name, digits) =>
    let cipher ← Cipher.ofName (String.ofList name)
    let vector ← (Text.Hex.decode (String.ofList (Text.trim digits))).mapError
      fun cause => .invalidDekInfo (.notHex cause)
    checkVector cipher vector
    return ⟨cipher, vector⟩

end DekInfo

end Credential.Key.Legacy
