import Credential.Text.Hex

/-!
# DER tags

The tags that a key file uses, and every other identifier octet as it is. `Tag.ofOctet`
reads an identifier octet and `Tag.octet` writes it.
-/

namespace Credential.Der

/-- An identifier octet, by what it announces. A context-specific tag keeps the low five
bits as its slot. -/
inductive Tag where
  | boolean
  | integer
  | bitString
  | octetString
  | null
  | objectIdentifier
  | sequence
  | set
  | contextSpecific (slot : UInt8) (constructed : Bool)
  | other (octet : UInt8)
  deriving DecidableEq, Repr

namespace Tag

/-- The tag that an identifier octet announces. -/
def ofOctet (b : UInt8) : Tag :=
  if b = 0x01 then .boolean
  else if b = 0x02 then .integer
  else if b = 0x03 then .bitString
  else if b = 0x04 then .octetString
  else if b = 0x05 then .null
  else if b = 0x06 then .objectIdentifier
  else if b = 0x30 then .sequence
  else if b = 0x31 then .set
  else if b &&& 0xC0 = 0x80 then .contextSpecific (b &&& 0x1F) (b &&& 0x20 != 0)
  else .other b

/-- The identifier octet of a tag. -/
def octet : Tag → UInt8
  | .boolean => 0x01
  | .integer => 0x02
  | .bitString => 0x03
  | .octetString => 0x04
  | .null => 0x05
  | .objectIdentifier => 0x06
  | .sequence => 0x30
  | .set => 0x31
  | .contextSpecific slot constructed => 0x80 ||| (if constructed then 0x20 else 0) ||| slot
  | .other b => b

/-- The name of a tag in messages. -/
def name : Tag → String
  | .boolean => "BOOLEAN"
  | .integer => "INTEGER"
  | .bitString => "BIT STRING"
  | .octetString => "OCTET STRING"
  | .null => "NULL"
  | .objectIdentifier => "OBJECT IDENTIFIER"
  | .sequence => "SEQUENCE"
  | .set => "SET"
  | .contextSpecific slot _ => "[" ++ toString slot.toNat ++ "]"
  | .other b => "tag 0x" ++ Text.Hex.encode [b]

end Tag

end Credential.Der
