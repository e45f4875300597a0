import Credential.Bytes
import Credential.Text.Utf8
import Credential.Text.Quoted

/-!
# Hexadecimal texts

Two digits an octet. `encode` and `encodeUpper` write them, `decode` reads both cases.
A text with an odd number of octets is refused before its digits are looked at.
-/

namespace Credential.Text.Hex

/-- Why a text is not hexadecimal. A position counts octets of the text. -/
inductive Error where
  | oddLength
  | notADigit (octet : UInt8) (position : Nat)
  deriving DecidableEq, Repr

/-- The wording of an error. The octet is shown as the character of that code. -/
def Error.message : Error → String
  | .oddLength => "Odd number of digits"
  | .notADigit octet position =>
    "Invalid character " ++ Quoted.char (Char.ofNat octet.toNat) ++ " at position "
      ++ toString position

/-- The lower case digit of a number below 16. -/
def digit (n : Nat) : Char :=
  if n < 10 then Char.ofNat (48 + n) else Char.ofNat (87 + n)

/-- The upper case digit of a number below 16. -/
def digitUpper (n : Nat) : Char :=
  if n < 10 then Char.ofNat (48 + n) else Char.ofNat (55 + n)

/-- The octets in lower case digits. -/
def encode (bs : Bytes) : String :=
  String.ofList (bs.flatMap fun b => [digit (b.toNat / 16), digit (b.toNat % 16)])

/-- The octets in upper case digits. -/
def encodeUpper (bs : Bytes) : String :=
  String.ofList (bs.flatMap fun b => [digitUpper (b.toNat / 16), digitUpper (b.toNat % 16)])

/-- The value of a digit, given as an ASCII octet. -/
def value? (b : UInt8) : Option UInt8 :=
  if 48 ≤ b ∧ b ≤ 57 then some (b - 48)
  else if 97 ≤ b ∧ b ≤ 102 then some (b - 87)
  else if 65 ≤ b ∧ b ≤ 70 then some (b - 55)
  else none

/-- The octets that the pairs of digits write; the first digit stands at `position`. -/
def decodePairs : (position : Nat) → Bytes → Except Error Bytes
  | position, high :: low :: rest =>
    match value? high, value? low with
    | none, _ => .error (.notADigit high position)
    | some _, none => .error (.notADigit low (position + 1))
    | some h, some l => (decodePairs (position + 2) rest).map ((h * 16 + l) :: ·)
  | _, _ => .ok []

/-- The octets that a text writes. -/
def decode (s : String) : Except Error Bytes :=
  let octets := Utf8.encode s
  if octets.length % 2 = 1 then .error .oddLength else decodePairs 0 octets

end Credential.Text.Hex
