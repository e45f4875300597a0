import Credential.Bytes

/-!
# JSON values

A JSON string is a list of code points, since its escapes may write a surrogate without a
partner. Such a string has no text; `text?` gives the text of every other one. A number
keeps its spelling, and an object keeps its members in order, equal names included.
-/

namespace Credential.Json

/-- The code points of a JSON string, surrogates included. -/
abbrev CodePoints := List Nat

/-- A JSON value. -/
inductive Value where
  | null
  | boolean (b : Bool)
  | number (spelling : List Char)
  | string (points : CodePoints)
  | array (values : List Value)
  | object (members : List (CodePoints × Value))
  deriving Repr

/-- The code points of a text. -/
def ofText (s : String) : CodePoints := s.toList.map Char.toNat

/-- The character with the given code point, unless it is a surrogate. -/
def character? (n : Nat) : Option Char :=
  if h : n.isValidChar then some (Char.ofNatAux n h) else none

/-- The text of code points without surrogates. -/
def text? (points : CodePoints) : Option String :=
  (points.mapM character?).map String.ofList

namespace Value

/-- The string of a text. -/
def text (s : String) : Value := .string (ofText s)

/-- The number in decimal digits. -/
def nat (n : Nat) : Value := .number (toString n).toList

/-- The value, or null if there is none. -/
def optional (v : Option Value) : Value := v.getD .null

/-- The object with the given members. -/
def record (members : List (String × Value)) : Value :=
  .object (members.map fun m => (ofText m.1, m.2))

end Value

end Credential.Json
