import Credential.Json.Reader
import Credential.Text.Decimal

/-!
# Reading records

A record with given field names is an object or an array. An object holds the fields by
name: other names are passed over, but no field stands twice. An array holds the fields in
order, and the last ones may be missing. What a missing field means is up to the reader of
the record.
-/

namespace Credential.Json

/-- The values of the fields of a record, in the order of the names. `byName` tells whether
the record is an object. -/
structure Record where
  byName : Bool
  values : List (Option Value)

namespace Record

/-- The members with the given name. -/
def named (name : String) (members : List (String × Value)) : List Value :=
  (members.filter fun m => m.1 == name).map Prod.snd

/-- The only member with the given name, if there is one; two are not allowed. -/
def member? (members : List (String × Value)) (name : String) : Option (Option Value) :=
  match named name members with
  | [] => some none
  | [v] => some (some v)
  | _ => none

/-- A member whose name is a text. -/
def textMember? (m : CodePoints × Value) : Option (String × Value) :=
  (text? m.1).map (·, m.2)

/-- The values in order, with none for each of the names that are left. -/
def positional? : (names : List String) → List Value → Option (List (Option Value))
  | [], [] => some []
  | [], _ :: _ => none
  | _ :: names, [] => (positional? names []).map (none :: ·)
  | _ :: names, v :: vs => (positional? names vs).map (some v :: ·)

/-- The record that a value holds. -/
def ofValue? (names : List String) : Value → Option Record
  | .object members => do
    let members ← members.mapM textMember?
    let values ← names.mapM (member? members)
    return ⟨true, values⟩
  | .array values => (positional? names values).map (⟨false, ·⟩)
  | _ => none

/-- Reads an optional field. It may be null, and in an object it may be missing. -/
def optional? {α : Type} (record : Record) (read? : Value → Option α) :
    Option Value → Option (Option α)
  | none => if record.byName then some none else none
  | some .null => some none
  | some v => (read? v).map some

end Record

/-- Reads a field with a default value. -/
def withDefault? {α : Type} (default : α) (read? : Value → Option α) : Option Value → Option α
  | none => some default
  | some v => read? v

namespace Value

/-- The text of a string. -/
def text? : Value → Option String
  | .string points => Json.text? points
  | _ => none

/-- The truth value. -/
def boolean? : Value → Option Bool
  | .boolean b => some b
  | _ => none

/-- The natural number below `2 ^ 32` that a number without sign, point and exponent
writes. -/
def nat32? : Value → Option Nat
  | .number spelling =>
    if spelling.all Char.isDigit then Text.Decimal.readBelow? Text.Decimal.bound32 spelling
    else none
  | _ => none

/-- The value, or none for null. -/
def nullable? {α : Type} (read? : Value → Option α) : Value → Option (Option α)
  | .null => some none
  | v => (read? v).map some

/-- The choice with the given name: the name itself, or an object whose only member has that
name and the value null. -/
def choice? {α : Type} (choices : List α) (name : α → String) (v : Value) : Option α := do
  let chosen ← match v with
    | .string points => Json.text? points
    | .object [(points, .null)] => Json.text? points
    | _ => none
  choices.find? fun a => name a == chosen

end Value

end Credential.Json
