import Credential.Text.Hidden

/-!
# Quoted characters and texts

The form in which diagnostics show a character or a text: between quotes, with escapes
for the quote, the backslash, tab, line feed, carriage return and NUL, and
`\u{HEX}` for a character that has no visible form of its own. A combining mark
has none, since it would join the quote before it.
-/

namespace Credential.Text.Quoted

/-- The lower case hexadecimal digits of a number. -/
def hexDigits (n : Nat) : String :=
  String.ofList (Nat.toDigits 16 n)

/-- One character between the given quotes. -/
def escape (quote c : Char) : String :=
  if c = quote ∨ c = '\\' then String.ofList ['\\', c]
  else match c with
    | '\x00' => "\\0"
    | '\t' => "\\t"
    | '\n' => "\\n"
    | '\r' => "\\r"
    | c => if isHidden c then "\\u\x7b" ++ hexDigits c.toNat ++ "\x7d" else c.toString

/-- A character between single quotes. -/
def char (c : Char) : String :=
  "'" ++ escape '\'' c ++ "'"

/-- A text between double quotes. -/
def text (s : String) : String :=
  "\"" ++ String.join (s.toList.map (escape '"')) ++ "\""

end Credential.Text.Quoted
