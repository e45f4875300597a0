import Credential.Json.Record
import Credential.Key.Info

/-!
# Key information in JSON

`Info.toJson` writes every field, with null for one that has no value. `Info.ofJson?` reads
a record with these fields; in an object, the ones that may be null may also be missing.
-/

namespace Credential.Key.Info

open Json (Value Record withDefault?)

/-- The names of the fields. -/
def fieldNames : List String := ["format", "label", "structure", "algorithm", "encryption"]

/-- The members of the object. -/
def members (info : Info) : List (String × Value) :=
  [("format", .text info.format.name), ("label", .optional (info.label.map .text)),
   ("structure", .text info.structure_.name),
   ("algorithm", .optional (info.algorithm.map fun a => .text a.name)),
   ("encryption", .optional (info.encryption.map .text))]

/-- The information as a JSON object. -/
def toJson (info : Info) : Value := .record info.members

/-- Reads the information from JSON. -/
def ofJson? (v : Value) : Option Info := do
  let record ← Record.ofValue? fieldNames v
  match record.values with
  | [format, label, structure_, algorithm, encryption] =>
    return {
      format := ← Value.choice? Format.all Format.name (← format)
      label := ← record.optional? Value.text? label
      structure_ := ← Value.choice? Structure.all Structure.name (← structure_)
      algorithm := ← record.optional? (Value.choice? Algorithm.all Algorithm.name) algorithm
      encryption := ← record.optional? Value.text? encryption }
  | _ => none

end Credential.Key.Info
