import Credential.Text.Blank

/-!
# Boundary lines

A boundary is a line of five dashes, `BEGIN` or `END`, one space, a label and five
dashes. A label is at least one upper case ASCII letter, ASCII digit or space.
-/

namespace Credential.Pem

/-- A line that opens or closes a block, with the text of its label. -/
inductive Boundary where
  | opening (label : List Char)
  | closing (label : List Char)
  deriving DecidableEq, Repr

/-- The dashes at both ends of a boundary. -/
def dashes : List Char := ['-', '-', '-', '-', '-']

/-- The characters of a label. -/
def isLabelChar (c : Char) : Bool :=
  c.isUpper || c.isDigit || c == ' '

/-- The label of a boundary line, after its keyword. -/
def labelBeforeDashes? (cs : List Char) : Option (List Char) :=
  let label := cs.takeWhile isLabelChar
  if label ≠ [] ∧ cs.dropWhile isLabelChar = dashes then some label else none

/-- The boundary that a trimmed line is, if it is one. -/
def Boundary.ofLine? (line : List Char) : Option Boundary :=
  match Text.dropLead? (dashes ++ ['B', 'E', 'G', 'I', 'N', ' ']) line with
  | some rest => (labelBeforeDashes? rest).map .opening
  | none =>
    match Text.dropLead? (dashes ++ ['E', 'N', 'D', ' ']) line with
    | some rest => (labelBeforeDashes? rest).map .closing
    | none => none

/-- The line that a boundary is. -/
def Boundary.line : Boundary → List Char
  | .opening label => dashes ++ ['B', 'E', 'G', 'I', 'N', ' '] ++ label ++ dashes
  | .closing label => dashes ++ ['E', 'N', 'D', ' '] ++ label ++ dashes

end Credential.Pem
