import Credential.Bytes

/-!
# Base64

The standard alphabet with required padding. `encode` writes it; `decode` reads exactly
the texts that `encode` writes, and names the first fault of any other.

A text is read in groups of four symbols. Every group but the last holds four symbols of
the alphabet; the last one holds two, three or four, filled up to four by `=`. The bits
of the last symbol that belong to no octet are zero.
-/

namespace Credential.Text.Base64

/-- Why a text is not base64. Offsets count octets of the text. -/
inductive Error where
  | symbol (octet : UInt8) (offset : Nat)
  | lastSymbol (octet : UInt8) (offset : Nat)
  | length (symbols : Nat)
  | padding
  deriving DecidableEq, Repr

/-- The wording of an error. -/
def Error.message : Error → String
  | .symbol octet offset =>
    "Invalid symbol " ++ toString octet.toNat ++ ", offset " ++ toString offset ++ "."
  | .lastSymbol octet offset =>
    "Invalid last symbol " ++ toString octet.toNat ++ ", offset " ++ toString offset ++ "."
  | .length symbols => "Invalid input length: " ++ toString symbols
  | .padding => "Invalid padding"

/-- The padding symbol `=`. -/
def pad : UInt8 := 61

/-- The symbol of a value below 64. -/
def symbol (n : Nat) : UInt8 :=
  if n < 26 then UInt8.ofNat (65 + n)
  else if n < 52 then UInt8.ofNat (71 + n)
  else if n < 62 then UInt8.ofNat (n - 4)
  else if n = 62 then 43
  else 47

/-- The value of a symbol. -/
def value? (b : UInt8) : Option Nat :=
  if 65 ≤ b ∧ b ≤ 90 then some (b.toNat - 65)
  else if 97 ≤ b ∧ b ≤ 122 then some (b.toNat - 71)
  else if 48 ≤ b ∧ b ≤ 57 then some (b.toNat + 4)
  else if b = 43 then some 62
  else if b = 47 then some 63
  else none

/-- The symbols of a byte string, as ASCII octets. -/
def encodeOctets : Bytes → Bytes
  | a :: b :: c :: rest =>
    symbol (a.toNat / 4) :: symbol (a.toNat % 4 * 16 + b.toNat / 16)
      :: symbol (b.toNat % 16 * 4 + c.toNat / 64) :: symbol (c.toNat % 64) :: encodeOctets rest
  | [a, b] =>
    [symbol (a.toNat / 4), symbol (a.toNat % 4 * 16 + b.toNat / 16), symbol (b.toNat % 16 * 4),
      pad]
  | [a] => [symbol (a.toNat / 4), symbol (a.toNat % 4 * 16), pad, pad]
  | [] => []

/-- The base64 text of a byte string. -/
def encode (bs : Bytes) : String :=
  String.ofList ((encodeOctets bs).map fun b => Char.ofNat b.toNat)

/-- The octets that the values of a last group write, given the symbol of the last value
and its offset. -/
def lastOctets (last : UInt8) (offset : Nat) : List Nat → Except Error Bytes
  | [v, w, x, y] =>
    .ok [UInt8.ofNat (v * 4 + w / 16), UInt8.ofNat (w % 16 * 16 + x / 4),
      UInt8.ofNat (x % 4 * 64 + y)]
  | [v, w, x] =>
    if x % 4 = 0 then .ok [UInt8.ofNat (v * 4 + w / 16), UInt8.ofNat (w % 16 * 16 + x / 4)]
    else .error (.lastSymbol last offset)
  | [v, w] =>
    if w % 16 = 0 then .ok [UInt8.ofNat (v * 4 + w / 16)] else .error (.lastSymbol last offset)
  | _ => .ok []

/-- Reads a last group that starts at `offset`. `values` are the values of the symbols
read so far, the last of which was `last`, and `pads` counts the padding after them. -/
def decodeLast (offset : Nat) (values : List Nat) (last : UInt8) (pads : Nat) :
    Bytes → Except Error Bytes
  | [] =>
    if values.length < 2 then .error (.length (offset + values.length))
    else if (values.length + pads) % 4 ≠ 0 then .error .padding
    else lastOctets last (offset + values.length - 1) values
  | b :: rest =>
    if b = pad then
      if values.length + pads < 2 then .error (.symbol b (offset + values.length + pads))
      else decodeLast offset values last (pads + 1) rest
    else if pads ≠ 0 then .error (.symbol pad (offset + values.length))
    else match value? b with
      | none => .error (.symbol b (offset + values.length))
      | some v => decodeLast offset (values ++ [v]) b 0 rest

/-- Reads one group of four symbols that starts at `offset`. -/
def decodeGroup (offset : Nat) (a b c d : UInt8) : Except Error Bytes :=
  match value? a with
  | none => .error (.symbol a offset)
  | some v => match value? b with
    | none => .error (.symbol b (offset + 1))
    | some w => match value? c with
      | none => .error (.symbol c (offset + 2))
      | some x => match value? d with
        | none => .error (.symbol d (offset + 3))
        | some y =>
          .ok [UInt8.ofNat (v * 4 + w / 16), UInt8.ofNat (w % 16 * 16 + x / 4),
            UInt8.ofNat (x % 4 * 64 + y)]

/-- Reads the groups from `offset` on. A group is the last one if nothing follows it. -/
def decodeGroups : (offset : Nat) → Bytes → Except Error Bytes
  | offset, a :: b :: c :: d :: e :: rest => do
    let octets ← decodeGroup offset a b c d
    let others ← decodeGroups (offset + 4) (e :: rest)
    return octets ++ others
  | _, [] => .ok []
  | offset, last => decodeLast offset [] pad 0 last

/-- The last octet that stands alone after complete groups, if it is neither a symbol nor
padding. -/
def strayLast? (octets : Bytes) : Option UInt8 :=
  if octets.length % 4 = 1 then
    octets.getLast?.filter fun b => (value? b).isNone && b != pad
  else none

/-- The byte string that the octets of a text write. A stray octet at the end is named
before any other fault. -/
def decodeOctets (octets : Bytes) : Except Error Bytes :=
  match strayLast? octets with
  | some b => .error (.symbol b (octets.length - 1))
  | none => decodeGroups 0 octets

end Credential.Text.Base64
