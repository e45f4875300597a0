/-!
# Byte strings

A byte string is a list of octets. This file defines its big-endian value, the
big-endian octets of a number at a fixed width, octet-wise exclusive or, blocks
of a fixed size, and the search for a byte string inside another one.

`bigEndian` is structural in the width and keeps the low octets, so
`bigEndian n.byteLength n` is the shortest encoding of `n`.
-/

namespace Credential

/-- A string of octets. -/
abbrev Bytes := List UInt8

namespace Bytes

/-- The number whose big-endian octets are `bs`. -/
def toNat (bs : Bytes) : Nat :=
  bs.foldl (fun value b => value * 256 + b.toNat) 0

/-- The low `width` octets of `n`, most significant first. -/
def bigEndian : (width : Nat) → (n : Nat) → Bytes
  | 0, _ => []
  | width + 1, n => bigEndian width (n / 256) ++ [UInt8.ofNat n]

/-- The low `width` octets of `n`, least significant first. -/
def littleEndian : (width : Nat) → (n : Nat) → Bytes
  | 0, _ => []
  | width + 1, n => UInt8.ofNat n :: littleEndian width (n / 256)

/-- Octet-wise exclusive or, as long as the shorter argument. -/
def xor (xs ys : Bytes) : Bytes :=
  List.zipWith (· ^^^ ·) xs ys

/-- The blocks of `size` octets that make up `bs`; the last one may be shorter. -/
def blocks (size : Nat) (bs : Bytes) : List Bytes :=
  if _h : size = 0 ∨ bs = [] then []
  else bs.take size :: blocks size (bs.drop size)
termination_by bs.length
decreasing_by
  have hpos : 0 < bs.length := List.length_pos_iff.mpr fun hnil => _h (Or.inr hnil)
  have hsize : size ≠ 0 := fun hzero => _h (Or.inl hzero)
  simp only [List.length_drop]
  omega

/-- Whether `part` occurs in `bs` as consecutive octets. -/
def contains (part : Bytes) : Bytes → Bool
  | [] => part.isEmpty
  | b :: bs => part.isPrefixOf (b :: bs) || contains part bs

end Bytes

/-- The number of binary digits of `n`; zero has none. -/
def bitLength (n : Nat) : Nat :=
  if n = 0 then 0 else n.log2 + 1

/-- The number of octets that hold `n`; zero needs none. -/
def byteLength (n : Nat) : Nat :=
  (bitLength n + 7) / 8

end Credential
