import Credential.Text.Hex
import Credential.X509.Keyword

/-!
# Names in certificates

A name is a sequence of relative names, each a set of attributes. The attributes of a set
are kept in the order of their encodings, whatever order they are read in, and no two of
them are equal.

`Name.text` is the form of RFC 4514: the relative names from the last to the first, joined
by commas, and the attributes of one joined by plus signs. An attribute whose type has a
keyword and whose value is readable is `KEY=value` with escapes; any other one is its dotted
type and the hexadecimal encoding of its value.
-/

namespace Credential.X509

/-- One attribute of a name: its type and its value. -/
structure Attribute where
  type : ObjectId
  value : Element
  deriving DecidableEq, Repr

/-- The attributes of one level of a name. -/
abbrev RelativeName := List Attribute

/-- A name, from the top level down. -/
abbrev Name := List RelativeName

/-! ## Reading and writing -/

namespace Attribute

/-- Reads an attribute. -/
def ofElement? (e : Element) : Option Attribute := do
  match ← e.sequence? with
  | [type, value] => return ⟨← ObjectId.ofElement? type, value⟩
  | _ => none

/-- The attribute as an element. -/
def toElement (a : Attribute) : Element :=
  .sequence [a.type.toElement, a.value]

/-- The encoding of an attribute. -/
def encode (a : Attribute) : Bytes := a.toElement.encode

end Attribute

namespace RelativeName

/-- The attributes with one more at its place in the order of encodings. An attribute that
is already there has no place. -/
def insert? (a : Attribute) : RelativeName → Option RelativeName
  | [] => some [a]
  | b :: rest =>
    if a.encode = b.encode then none
    else if a.encode < b.encode then some (a :: b :: rest)
    else (insert? a rest).map (b :: ·)

/-- Reads the SET of the attributes. -/
def ofElement? (e : Element) : Option RelativeName := do
  let attributes ← (← e.set?).mapM Attribute.ofElement?
  attributes.foldlM (fun sorted a => insert? a sorted) []

/-- The SET of the attributes. -/
def toElement (r : RelativeName) : Element :=
  .set (r.map Attribute.toElement)

end RelativeName

namespace Name

/-- Reads a name. -/
def ofElement? (e : Element) : Option Name := do
  (← e.sequence?).mapM RelativeName.ofElement?

/-- The name as an element. -/
def toElement (name : Name) : Element :=
  .sequence (name.map RelativeName.toElement)

end Name

/-! ## Text -/

/-- The characters of a PrintableString besides letters and digits. -/
def printableMarks : List Char :=
  [' ', '\'', '(', ')', '+', ',', '-', '.', '/', ':', '=', '?']

/-- Whether a character may stand in a PrintableString. -/
def isPrintable (c : Char) : Bool :=
  c.isAlphanum || printableMarks.contains c

/-- Whether a character is ASCII. -/
def isAscii (c : Char) : Bool :=
  c.toNat < 0x80

/-- The text of a UTF8String, a PrintableString, or a TeletexString or IA5String in ASCII. -/
def characters? (value : Element) : Option (List Char) := do
  let text := (← Text.Utf8.decode? value.content).toList
  match value.octet with
  | 0x0C => return text
  | 0x13 => if text.all isPrintable then return text else none
  | 0x14 | 0x16 => if text.all isAscii then return text else none
  | _ => none

/-- The characters that a backslash escapes anywhere in a value. -/
def escapedMarks : List Char := ['"', '+', ',', ';', '<', '>', '\\']

/-- A character of a value; `first` and `last` tell whether it stands at an end. -/
def escapeChar (first last : Bool) (c : Char) : List Char :=
  if (c = '#' ∧ first) ∨ (c = ' ' ∧ (first ∨ last)) ∨ escapedMarks.contains c then ['\\', c]
  else if c.toNat < 0x20 ∨ c.toNat = 0x7F then
    '\\' :: (Text.Hex.encode [UInt8.ofNat c.toNat]).toList
  else [c]

/-- A value with its escapes; `first` tells whether the whole value is meant. -/
def escapeValue (first : Bool) : List Char → List Char
  | [] => []
  | [c] => escapeChar first true c
  | c :: cs => escapeChar first false c ++ escapeValue false cs

namespace Attribute

/-- The text of an attribute. -/
def text (a : Attribute) : String :=
  match a.type.keyword?, characters? a.value with
  | some key, some value => key ++ "=" ++ String.ofList (escapeValue true value)
  | _, _ => a.type.text ++ "=#" ++ Text.Hex.encode a.value.encode

end Attribute

/-- The text of a name. -/
def Name.text (name : Name) : String :=
  ",".intercalate (name.reverse.map fun r => "+".intercalate (r.map Attribute.text))

end Credential.X509
