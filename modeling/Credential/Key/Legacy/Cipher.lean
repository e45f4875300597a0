import Credential.Cipher.Algorithm
import Credential.Cipher.Mode
import Credential.Key.Error
import Credential.Text.Blank
import Credential.Text.Decimal

/-!
# Cipher names of encrypted PEM blocks

A cipher name is a family, an optional variant and an optional mode, joined by hyphens.
Blanks around it and the case of ASCII letters do not count. The mode is CBC if none is
named, `AES` alone means AES-128, and `DES2` and `DES3` both mean three-key triple DES.
`RC4` takes a key size of 40, 64 or 128 bits, which is 128 if none is named.
-/

namespace Credential.Key.Legacy

/-- The cipher of an encrypted PEM block. -/
inductive Cipher where
  | block (algorithm : Credential.Cipher.Algorithm) (mode : Credential.Cipher.Mode)
  | rc4 (keyBits : Nat)
  deriving DecidableEq, Repr

namespace Cipher

/-- The number of key octets. -/
def keyLength : Cipher → Nat
  | .block algorithm _ => algorithm.keyLength
  | .rc4 keyBits => keyBits / 8

/-- The size of the key in bits. -/
def keyBits (cipher : Cipher) : Nat := cipher.keyLength * 8

/-- The number of octets of the initial vector, if the cipher uses one. -/
def vectorLength? : Cipher → Option Nat
  | .block algorithm mode => if mode.usesVector then some algorithm.blockSize else none
  | .rc4 _ => none

/-- The name of a cipher. -/
def name : Cipher → String
  | .block algorithm mode => algorithm.name ++ "-" ++ mode.name
  | .rc4 keyBits => if keyBits = 128 then "RC4" else "RC4-" ++ toString keyBits

/-- The key size that the part after `RC4-` names. -/
def rc4Bits? (part : List Char) : Option Nat :=
  (Text.Decimal.readBelow? Text.Decimal.bound32 part).filter fun bits =>
    bits == 40 || bits == 64 || bits == 128

/-- The mode that the parts after the algorithm name. -/
def mode? : List String → Option Credential.Cipher.Mode
  | [] => some .cbc
  | ["CBC"] => some .cbc
  | ["ECB"] => some .ecb
  | ["CFB"] => some .cfb
  | ["OFB"] => some .ofb
  | _ => none

/-- The algorithm that the leading parts name, with the parts after it. -/
def algorithm? : List String → Option (Credential.Cipher.Algorithm × List String)
  | "AES" :: "128" :: rest => some (.aes128, rest)
  | "AES" :: "192" :: rest => some (.aes192, rest)
  | "AES" :: "256" :: rest => some (.aes256, rest)
  | "AES" :: rest => some (.aes128, rest)
  | "DES" :: "EDE3" :: rest => some (.tripleDes, rest)
  | "DES" :: "EDE" :: rest => some (.twoKeyTripleDes, rest)
  | "DES" :: rest => some (.des, rest)
  | "DES3" :: rest => some (.tripleDes, rest)
  | "DES2" :: rest => some (.tripleDes, rest)
  | _ => none

/-- The cipher that the parts of a name give. -/
def ofParts? : List String → Option Cipher
  | ["RC4"] => some (.rc4 128)
  | ["RC4", bits] => (rc4Bits? bits.toList).map .rc4
  | parts =>
    match algorithm? parts with
    | some (algorithm, rest) => (mode? rest).map (.block algorithm)
    | none => none

/-- The parts of a name, in upper case and without the blanks around it. -/
def nameParts (s : String) : List String :=
  (Text.splitOn '-' ((Text.trim s.toList).map Char.toUpper)).map String.ofList

/-- The cipher with the given name. -/
def ofName (s : String) : Except Error Cipher :=
  match ofParts? (nameParts s) with
  | some cipher => .ok cipher
  | none => .error (.unsupportedCipher s)

end Cipher

end Credential.Key.Legacy
