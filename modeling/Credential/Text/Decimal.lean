/-!
# Bounded decimal numbers

The decimal texts of the natural numbers below a bound: an optional plus sign, then at
least one ASCII digit. Leading zeros are allowed. `readBelow?` gives the number,
`readInteger?` also takes a minus sign.
-/

namespace Credential.Text.Decimal

/-- The bound of the numbers that fit 32 bits, `2 ^ 32`. -/
def bound32 : Nat := 4294967296

/-- The bound of the numbers that fit 64 bits, `2 ^ 64`. -/
def bound64 : Nat := 18446744073709551616

/-- The number with the given digits, if there is at least one and all are ASCII digits. -/
def readDigits? (cs : List Char) : Option Nat :=
  if cs ≠ [] ∧ cs.all Char.isDigit then some (Nat.ofDigitChars 10 cs 0) else none

/-- The text without a plus sign at its start. -/
def dropPlus : List Char → List Char
  | '+' :: cs => cs
  | cs => cs

/-- The number below `bound` that the text writes. -/
def readBelow? (bound : Nat) (cs : List Char) : Option Nat :=
  match readDigits? (dropPlus cs) with
  | some n => if n < bound then some n else none
  | none => none

/-- The integer that the text writes with an optional sign. -/
def readInteger? : List Char → Option Int
  | '-' :: cs => (readDigits? cs).map fun n => -(n : Int)
  | cs => (readDigits? (dropPlus cs)).map fun n => (n : Int)

/-- The decimal digits of `n`, padded with zeros to at least `width`. -/
def padded (width n : Nat) : String :=
  let digits := toString n
  String.ofList (List.replicate (width - digits.length) '0') ++ digits

end Credential.Text.Decimal
