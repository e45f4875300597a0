import Credential.Json.Value
import Credential.Text.Hex

/-!
# Writing JSON

`Value.pretty` writes a value over several lines: every member and every element on a line
of its own, two blanks further in than the value they belong to. An empty array or object
is written without a line feed.
-/

namespace Credential.Json

/-- A code point in an escape `\uHHHH`. -/
def unicodeEscape (n : Nat) : String :=
  "\\u" ++ Text.Hex.encode (Bytes.bigEndian 2 n)

/-- A code point inside a string. Quote, backslash, the control characters and surrogates
are escaped. -/
def escape (n : Nat) : String :=
  if n = 0x22 then "\\\""
  else if n = 0x5C then "\\\\"
  else if n = 0x08 then "\\b"
  else if n = 0x09 then "\\t"
  else if n = 0x0A then "\\n"
  else if n = 0x0C then "\\f"
  else if n = 0x0D then "\\r"
  else if n < 0x20 then unicodeEscape n
  else match character? n with
    | some c => c.toString
    | none => unicodeEscape n

/-- A string between quotes. -/
def quoted (points : CodePoints) : String :=
  "\"" ++ String.join (points.map escape) ++ "\""

/-- The indentation at a depth. -/
def indentation (depth : Nat) : String :=
  String.ofList (List.replicate (2 * depth) ' ')

/-- Items on lines of their own between an opening and a closing bracket. -/
def bracketed (opening closing : String) (depth : Nat) (items : List String) : String :=
  if items.isEmpty then opening ++ closing
  else
    opening ++ "\n"
      ++ ",\n".intercalate (items.map (indentation (depth + 1) ++ ·))
      ++ "\n" ++ indentation depth ++ closing

mutual

/-- The text of a value at a depth. -/
def Value.prettyAt (depth : Nat) : Value → String
  | .null => "null"
  | .boolean b => if b then "true" else "false"
  | .number spelling => String.ofList spelling
  | .string points => quoted points
  | .array values => bracketed "[" "]" depth (elementTexts (depth + 1) values)
  | .object members => bracketed "\x7b" "\x7d" depth (memberTexts (depth + 1) members)

/-- The texts of the elements of an array. -/
def elementTexts (depth : Nat) : List Value → List String
  | [] => []
  | v :: vs => v.prettyAt depth :: elementTexts depth vs

/-- The texts of the members of an object. -/
def memberTexts (depth : Nat) : List (CodePoints × Value) → List String
  | [] => []
  | (name, v) :: ms => (quoted name ++ ": " ++ v.prettyAt depth) :: memberTexts depth ms

end

/-- The text of a value over several lines. -/
def Value.pretty (v : Value) : String := v.prettyAt 0

end Credential.Json
