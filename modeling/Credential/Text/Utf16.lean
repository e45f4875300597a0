import Credential.Bytes

/-!
# UTF-16

Texts as 16-bit units, a character beyond the basic plane as a pair of surrogates, each
unit written as two octets, most significant first.
-/

namespace Credential.Text.Utf16

/-- The units of a character. -/
def units (c : Char) : List Nat :=
  let n := c.toNat
  if n < 0x10000 then [n]
  else [0xD800 + (n - 0x10000) / 0x400, 0xDC00 + (n - 0x10000) % 0x400]

/-- The octets of a text. -/
def encode (cs : List Char) : Bytes :=
  (cs.flatMap units).flatMap (Bytes.bigEndian 2)

end Credential.Text.Utf16
