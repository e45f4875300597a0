import Credential.Json.Value

/-!
# Reading JSON

`parse?` reads a text that is one value between blanks. The readers, one for each rule of the
grammar, take the unread characters and give what they read with the characters left.

The fuel of `readValue?` bounds the nesting of its calls. Every second call reads a
character, so twice the length of a text is enough for it.
-/

namespace Credential.Json

/-- Whether a character may stand between tokens. -/
def isBlank (c : Char) : Bool :=
  c == ' ' || c == '\t' || c == '\n' || c == '\r'

/-- The characters after the blanks. -/
def skipBlanks (cs : List Char) : List Char := cs.dropWhile isBlank

/-! ## Numbers -/

/-- Reads at least one digit. -/
def readDigits? (cs : List Char) : Option (List Char × List Char) :=
  let digits := cs.takeWhile Char.isDigit
  if digits = [] then none else some (digits, cs.dropWhile Char.isDigit)

/-- Reads the digits before the point; a zero stands alone. -/
def readWhole? : List Char → Option (List Char × List Char)
  | '0' :: rest => if (rest.head?.map Char.isDigit).getD false then none else some (['0'], rest)
  | cs => readDigits? cs

/-- Reads the part after the point, if there is one. -/
def readFraction? : List Char → Option (List Char × List Char)
  | '.' :: rest => (readDigits? rest).map fun (digits, rest) => ('.' :: digits, rest)
  | cs => some ([], cs)

/-- Reads the sign of an exponent, if there is one. -/
def readSign : List Char → List Char × List Char
  | '+' :: rest => (['+'], rest)
  | '-' :: rest => (['-'], rest)
  | cs => ([], cs)

/-- Reads an exponent, if there is one. -/
def readExponent? : List Char → Option (List Char × List Char)
  | c :: rest =>
    if c = 'e' ∨ c = 'E' then
      let (sign, rest) := readSign rest
      (readDigits? rest).map fun (digits, rest) => (c :: (sign ++ digits), rest)
    else some ([], c :: rest)
  | [] => some ([], [])

/-- Reads a number without its sign. -/
def readUnsigned? (cs : List Char) : Option (List Char × List Char) := do
  let (whole, rest) ← readWhole? cs
  let (fraction, rest) ← readFraction? rest
  let (exponent, rest) ← readExponent? rest
  return (whole ++ fraction ++ exponent, rest)

/-- Reads a number. -/
def readNumber? : List Char → Option (List Char × List Char)
  | '-' :: rest => (readUnsigned? rest).map fun (spelling, rest) => ('-' :: spelling, rest)
  | cs => readUnsigned? cs

/-! ## Strings -/

/-- The value of a hexadecimal digit. -/
def hexValue? (c : Char) : Option Nat :=
  if c.isDigit then some (c.toNat - 48)
  else if 'a' ≤ c ∧ c ≤ 'f' then some (c.toNat - 87)
  else if 'A' ≤ c ∧ c ≤ 'F' then some (c.toNat - 55)
  else none

/-- The value of four hexadecimal digits. -/
def hexUnit? (a b c d : Char) : Option Nat := do
  return (((← hexValue? a) * 16 + (← hexValue? b)) * 16 + (← hexValue? c)) * 16 + (← hexValue? d)

/-- The character that a short escape writes. -/
def shortEscape? (c : Char) : Option Nat :=
  match c with
  | '"' => some 0x22
  | '\\' => some 0x5C
  | '/' => some 0x2F
  | 'b' => some 0x08
  | 'f' => some 0x0C
  | 'n' => some 0x0A
  | 'r' => some 0x0D
  | 't' => some 0x09
  | _ => none

/-- Reads the units of a string up to its closing quote. Characters below the blank are
written by escapes only. -/
def readUnits? : List Char → Option (CodePoints × List Char)
  | [] => none
  | '"' :: rest => some ([], rest)
  | '\\' :: 'u' :: a :: b :: c :: d :: rest => do
    let unit ← hexUnit? a b c d
    let (units, rest) ← readUnits? rest
    return (unit :: units, rest)
  | '\\' :: c :: rest => do
    let unit ← shortEscape? c
    let (units, rest) ← readUnits? rest
    return (unit :: units, rest)
  | c :: rest =>
    if c = '\\' ∨ c.toNat < 0x20 then none
    else do
      let (units, rest) ← readUnits? rest
      return (c.toNat :: units, rest)

/-- Whether a unit is the first one of a pair of surrogates. -/
def isLeading (n : Nat) : Bool := 0xD800 ≤ n && n < 0xDC00

/-- Whether a unit is the second one of a pair of surrogates. -/
def isTrailing (n : Nat) : Bool := 0xDC00 ≤ n && n < 0xE000

/-- The code points that units write: a pair of surrogates is one code point. -/
def joinPairs : List Nat → CodePoints
  | a :: b :: rest =>
    if isLeading a ∧ isTrailing b then
      (0x10000 + (a - 0xD800) * 0x400 + (b - 0xDC00)) :: joinPairs rest
    else a :: joinPairs (b :: rest)
  | units => units

/-- Reads a string after its opening quote. -/
def readString? (cs : List Char) : Option (CodePoints × List Char) :=
  (readUnits? cs).map fun (units, rest) => (joinPairs units, rest)

/-! ## Values -/

/-- Reads the separator after an item: a comma, or the bracket that ends the list. The
result tells whether another item follows. -/
def readSeparator? (closing : Char) (cs : List Char) : Option (Bool × List Char) :=
  match skipBlanks cs with
  | [] => none
  | c :: rest =>
    if c = ',' then some (true, rest) else if c = closing then some (false, rest) else none

/-- Reads the name of a member and the colon. -/
def readName? (cs : List Char) : Option (CodePoints × List Char) :=
  match skipBlanks cs with
  | '"' :: rest => do
    let (name, rest) ← readString? rest
    match skipBlanks rest with
    | ':' :: rest => return (name, rest)
    | _ => none
  | _ => none

/-- The characters after a list that is empty. -/
def emptyList? (closing : Char) (cs : List Char) : Option (List Char) :=
  match skipBlanks cs with
  | [] => none
  | c :: rest => if c = closing then some rest else none

mutual

/-- Reads a value. -/
def readValue? : (fuel : Nat) → List Char → Option (Value × List Char)
  | 0, _ => none
  | fuel + 1, cs =>
    match skipBlanks cs with
    | 'n' :: 'u' :: 'l' :: 'l' :: rest => some (.null, rest)
    | 't' :: 'r' :: 'u' :: 'e' :: rest => some (.boolean true, rest)
    | 'f' :: 'a' :: 'l' :: 's' :: 'e' :: rest => some (.boolean false, rest)
    | '"' :: rest => (readString? rest).map fun (points, rest) => (.string points, rest)
    | '[' :: rest =>
      match emptyList? ']' rest with
      | some rest => some (.array [], rest)
      | none => (readElements? fuel rest).map fun (values, rest) => (.array values, rest)
    | '\x7b' :: rest =>
      match emptyList? '\x7d' rest with
      | some rest => some (.object [], rest)
      | none => (readMembers? fuel rest).map fun (members, rest) => (.object members, rest)
    | cs => (readNumber? cs).map fun (spelling, rest) => (.number spelling, rest)

/-- Reads the elements of an array and its closing bracket. -/
def readElements? : (fuel : Nat) → List Char → Option (List Value × List Char)
  | 0, _ => none
  | fuel + 1, cs => do
    let (value, rest) ← readValue? fuel cs
    match ← readSeparator? ']' rest with
    | (true, rest) =>
      let (values, rest) ← readElements? fuel rest
      return (value :: values, rest)
    | (false, rest) => return ([value], rest)

/-- Reads the members of an object and its closing brace. -/
def readMembers? : (fuel : Nat) → List Char → Option (List (CodePoints × Value) × List Char)
  | 0, _ => none
  | fuel + 1, cs => do
    let (name, rest) ← readName? cs
    let (value, rest) ← readValue? fuel rest
    match ← readSeparator? '\x7d' rest with
    | (true, rest) =>
      let (members, rest) ← readMembers? fuel rest
      return ((name, value) :: members, rest)
    | (false, rest) => return ([(name, value)], rest)

end

/-- The value that a text writes. -/
def parse? (s : String) : Option Value :=
  match readValue? (2 * s.length + 2) s.toList with
  | some (value, rest) => if (skipBlanks rest).isEmpty then some value else none
  | none => none

end Credential.Json
