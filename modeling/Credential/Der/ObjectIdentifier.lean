import Credential.Der.Error
import Credential.Text.Blank
import Credential.Text.Decimal

/-!
# Object identifiers

An object identifier is its list of arcs. `ofContent` reads the content octets of an
OBJECT IDENTIFIER: the first octet holds the first two arcs, and every further arc is
written in base 128, each octet but its last with the high bit set. `ofText` and
`ObjectIdentifier.text` are the dotted form. Arcs fit 64 bits.
-/

namespace Credential.Der

/-- An OBJECT IDENTIFIER. -/
structure ObjectIdentifier where
  arcs : List Nat
  deriving DecidableEq, Repr

namespace ObjectIdentifier

/-- The least value that seven more bits carry over 64 bits, `2 ^ 57`. -/
def carryBound : Nat := 144115188075855872

/-- Reads arcs in base 128. `value` is the value of the octets of the current arc, and
`pending` says whether the arc goes on. A further octet after a value of
`carryBound` or more would carry the arc over 64 bits. -/
def readArcs : Bytes → (value : Nat) → (pending : Bool) → Except Error (List Nat)
  | [], _, pending => if pending then .error .identifierIncomplete else .ok []
  | b :: bs, value, _ =>
    if value ≥ carryBound then .error .identifierArcOverflow
    else
      let next := value * 128 + b.toNat % 128
      if b ≥ 0x80 then readArcs bs next true
      else (readArcs bs 0 false).map (next :: ·)

/-- The identifier with the given content octets. -/
def ofContent : Bytes → Except Error ObjectIdentifier
  | [] => .error .identifierEmpty
  | b :: bs =>
    (readArcs bs 0 false).map fun arcs => ⟨b.toNat / 40 :: b.toNat % 40 :: arcs⟩

/-- The dotted form. -/
def text (oid : ObjectIdentifier) : String :=
  ".".intercalate (oid.arcs.map toString)

/-- Reads the parts of a dotted form. -/
def readParts : List (List Char) → Except Error (List Nat)
  | [] => .ok []
  | part :: parts =>
    match Text.Decimal.readBelow? Text.Decimal.bound64 part with
    | none => .error (.identifierArcInvalid (String.ofList part))
    | some arc => (readParts parts).map (arc :: ·)

/-- The identifier that a dotted form writes. An invalid part is reported before a
missing one. -/
def ofText (s : String) : Except Error ObjectIdentifier :=
  match readParts (Text.splitOn '.' s.toList) with
  | .error e => .error e
  | .ok arcs => if arcs.length < 2 then .error .identifierTooShort else .ok ⟨arcs⟩

/-- The octets of an arc in base 128, most significant first, followed by `tail`; every
octet but the last one has the high bit set. `last` says whether this is the last octet. -/
def arcOctets (n : Nat) (last : Bool) (tail : Bytes) : Bytes :=
  let octet := UInt8.ofNat (n % 128 + if last then 0 else 128)
  if n < 128 then octet :: tail else arcOctets (n / 128) false (octet :: tail)
termination_by n

/-- The content octets of an identifier whose first two arcs share an octet. -/
def content (oid : ObjectIdentifier) : Bytes :=
  match oid.arcs with
  | first :: second :: arcs =>
    UInt8.ofNat (first * 40 + second) :: arcs.flatMap fun arc => arcOctets arc true []
  | _ => []

end ObjectIdentifier

end Credential.Der
