import Credential.Der.ObjectIdentifier

/-!
# Reading DER elements

A reader takes the unread octets and gives what it read with the octets left. An element
is an identifier octet, a length and that many content octets. A length is one octet
below `0x80`, or `0x80 + k` followed by `k` big-endian octets with `k` from 1 to 4; it
need not be the shortest form. Lengths over 32 bits and the indefinite form are refused.
-/

namespace Credential.Der

/-- The next `count` octets. -/
def take (count : Nat) (input : Bytes) : Except Error (Bytes × Bytes) :=
  if input.length < count then .error .unexpectedEnd
  else .ok (input.take count, input.drop count)

/-- The next identifier octet. -/
def readTag : Bytes → Except Error (Tag × Bytes)
  | [] => .error .unexpectedEnd
  | b :: rest => .ok (.ofOctet b, rest)

/-- The next length field. -/
def readLength : Bytes → Except Error (Nat × Bytes)
  | [] => .error .unexpectedEnd
  | b :: rest =>
    if b < 0x80 then .ok (b.toNat, rest)
    else
      let count := b.toNat - 0x80
      if count = 0 then .error .indefiniteLength
      else if count > 4 then .error (.lengthOverflow count)
      else do
        let (digits, rest) ← take count rest
        return (Bytes.toNat digits, rest)

/-- The tag of the next element, which stays unread. -/
def peekTag (input : Bytes) : Option Tag :=
  input.head?.map Tag.ofOctet

/-- Reads the identifier octet and the length of an element with tag `expected`. The tag
is checked before the length is read, and the content stays unread. -/
def readHeader (expected : Tag) (input : Bytes) : Except Error (Nat × Bytes) := do
  let (tag, rest) ← readTag input
  if tag = expected then readLength rest
  else throw (.unexpectedTag expected tag)

/-- Reads an element of any tag: its tag and content. -/
def readAny (input : Bytes) : Except Error ((Tag × Bytes) × Bytes) := do
  let (tag, rest) ← readTag input
  let (length, rest) ← readLength rest
  let (content, rest) ← take length rest
  return ((tag, content), rest)

/-- Reads an element of any tag as its complete encoding. -/
def readElement (input : Bytes) : Except Error (Bytes × Bytes) := do
  let (_, rest) ← readAny input
  return (input.take (input.length - rest.length), rest)

/-- Reads the content of an element with tag `expected`. -/
def readValue (expected : Tag) (input : Bytes) : Except Error (Bytes × Bytes) := do
  let (length, rest) ← readHeader expected input
  take length rest

/-- Reads the content octets of a non-negative INTEGER. -/
def readUnsigned (input : Bytes) : Except Error (Bytes × Bytes) := do
  let (content, rest) ← readValue .integer input
  match content with
  | [] => throw .integerEmpty
  | b :: _ => if b ≥ 0x80 then throw .integerNegative else return (content, rest)

/-- Reads a non-negative INTEGER of any size. -/
def readNat (input : Bytes) : Except Error (Nat × Bytes) := do
  let (content, rest) ← readValue .integer input
  match content with
  | [] => throw .integerEmpty
  | b :: _ => if b ≥ 0x80 then throw .integerNegative else return (Bytes.toNat content, rest)

/-- Reads a non-negative INTEGER that fits 64 bits. -/
def readNat64 (input : Bytes) : Except Error (Nat × Bytes) := do
  let (n, rest) ← readNat input
  if n < Text.Decimal.bound64 then return (n, rest) else throw .integerOutOfRange

/-- Reads an OBJECT IDENTIFIER. -/
def readObjectIdentifier (input : Bytes) : Except Error (ObjectIdentifier × Bytes) := do
  let (content, rest) ← readValue .objectIdentifier input
  let oid ← ObjectIdentifier.ofContent content
  return (oid, rest)

/-- Reads the content of an OCTET STRING. -/
def readOctetString (input : Bytes) : Except Error (Bytes × Bytes) :=
  readValue .octetString input

/-- Reads the content of a SEQUENCE. -/
def readSequence (input : Bytes) : Except Error (Bytes × Bytes) :=
  readValue .sequence input

/-- Reads a NULL; it has no content. -/
def readNull (input : Bytes) : Except Error (Unit × Bytes) := do
  let (content, rest) ← readValue .null input
  if content.isEmpty then return ((), rest) else throw (.nullContent content.length)

/-- Succeeds if nothing is left unread. -/
def finish (input : Bytes) : Except Error Unit :=
  if input.isEmpty then .ok () else .error (.trailingData input.length)

/-- The content of a byte string that is one SEQUENCE and nothing else. -/
def sequenceContent (data : Bytes) : Except Error Bytes := do
  let (content, rest) ← readSequence data
  finish rest
  return content

end Credential.Der
