import Credential.X509.Element

/-!
# Values in certificates

The primitive types of a certificate and the AlgorithmIdentifier of RFC 5280. Each type has
a reader from an element, which fails on every form but the strict one, and a writer; the
writer gives back the element that was read.
-/

namespace Credential.X509

/-! ## Object identifiers -/

/-- An object identifier, as its content octets. Different octets are different
identifiers, even if they write the same arcs. -/
structure ObjectId where
  content : Bytes
  deriving DecidableEq, Repr

namespace ObjectId

/-- Reads arcs in base 128. `value` is the value of the octets of the current arc and `count`
their number. A fifth octet of an arc is below 16, so it is the last; the value is kept
modulo `2 ^ 32`. -/
def readArcs? : Bytes → (value count : Nat) → Option (List Nat)
  | [], _, count => if count = 0 then some [] else none
  | b :: bs, value, count =>
    if 4 ≤ count ∧ 0x10 ≤ b then none
    else
      let next := (value * 128 + b.toNat % 128) % Text.Decimal.bound32
      if 0x80 ≤ b then readArcs? bs next (count + 1)
      else (readArcs? bs 0 0).map (next :: ·)

/-- The arcs that content octets write. The first octet holds two arcs, the first of which
is at most 2. -/
def arcs? : Bytes → Option (List Nat)
  | [] => none
  | b :: bs =>
    if b < 120 then (readArcs? bs 0 0).map fun arcs => b.toNat / 40 :: b.toNat % 40 :: arcs
    else none

/-- Reads an OBJECT IDENTIFIER of 3 to 39 octets. -/
def ofElement? (e : Element) : Option ObjectId :=
  if e.octet = 0x06 ∧ 3 ≤ e.content.length ∧ e.content.length ≤ 39
      ∧ (arcs? e.content).isSome then some ⟨e.content⟩
  else none

/-- The OBJECT IDENTIFIER. -/
def toElement (id : ObjectId) : Element := ⟨0x06, id.content⟩

/-- The dotted form. -/
def text (id : ObjectId) : String :=
  ".".intercalate (((arcs? id.content).getD []).map toString)

end ObjectId

/-! ## Numbers, booleans and strings -/

/-- Whether content octets are the shortest ones of a signed integer. -/
def isIntegerContent : Bytes → Bool
  | [] => false
  | [_] => true
  | a :: b :: _ => !(a == 0x00 && b < 0x80) && !(a == 0xFF && 0x80 ≤ b)

/-- The content of an INTEGER. -/
def integer? (e : Element) : Option Bytes :=
  if e.octet = 0x02 ∧ isIntegerContent e.content then some e.content else none

/-- The value of an INTEGER below 256. -/
def octetInteger? (e : Element) : Option Nat := do
  let content ← integer? e
  match content with
  | [a] => if a < 0x80 then some a.toNat else none
  | [0x00, b] => some b.toNat
  | _ => none

/-- The value of a BOOLEAN. -/
def boolean? (e : Element) : Option Bool :=
  if e.octet ≠ 0x01 then none
  else if e.content = [0x00] then some false
  else if e.content = [0xFF] then some true
  else none

/-- The content of an OCTET STRING. -/
def octetString? (e : Element) : Option Bytes :=
  if e.octet = 0x04 then some e.content else none

/-- A BIT STRING: the number of unused bits of the last octet, and the octets. -/
structure BitString where
  unused : UInt8
  octets : Bytes
  deriving DecidableEq, Repr

namespace BitString

/-- Reads the content of a BIT STRING. -/
def ofContent? : Bytes → Option BitString
  | [] => none
  | unused :: octets =>
    if unused ≤ 7 ∧ (unused = 0 ∨ octets ≠ []) then some ⟨unused, octets⟩ else none

/-- Reads a BIT STRING under the given identifier octet. -/
def ofElement? (octet : UInt8) (e : Element) : Option BitString :=
  if e.octet = octet then ofContent? e.content else none

/-- The BIT STRING under the given identifier octet. -/
def toElement (octet : UInt8) (bits : BitString) : Element :=
  ⟨octet, bits.unused :: bits.octets⟩

/-- The identifier octet of a BIT STRING. -/
def octet : UInt8 := 0x03

end BitString

/-! ## Algorithm identifiers -/

/-- An algorithm with optional parameters of any type. -/
structure AlgorithmIdentifier where
  algorithm : ObjectId
  parameters : Option Element
  deriving DecidableEq, Repr

namespace AlgorithmIdentifier

/-- Reads an AlgorithmIdentifier. -/
def ofElement? (e : Element) : Option AlgorithmIdentifier := do
  match ← e.sequence? with
  | [algorithm] => return ⟨← ObjectId.ofElement? algorithm, none⟩
  | [algorithm, parameters] => return ⟨← ObjectId.ofElement? algorithm, some parameters⟩
  | _ => none

/-- The AlgorithmIdentifier. -/
def toElement (id : AlgorithmIdentifier) : Element :=
  .sequence (id.algorithm.toElement :: id.parameters.toList)

end AlgorithmIdentifier

end Credential.X509
