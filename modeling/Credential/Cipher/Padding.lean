import Credential.Bytes

/-!
# Padding to whole blocks

A text is filled up to whole blocks by `k` octets of value `k`, for `k` from 1 to the block
size. `unpad?` removes exactly what `pad` adds.
-/

namespace Credential.Cipher

/-- The text filled up to whole blocks of `size` octets. -/
def pad (size : Nat) (text : Bytes) : Bytes :=
  let count := size - text.length % size
  text ++ List.replicate count (UInt8.ofNat count)

/-- The text without its padding, if the padding is right. -/
def unpad? (size : Nat) (padded : Bytes) : Option Bytes :=
  match padded.getLast? with
  | none => none
  | some last =>
    let count := last.toNat
    let start := padded.length - count
    if 1 ≤ count ∧ count ≤ size ∧ count ≤ padded.length
        ∧ (padded.drop start).all (· == last) then
      some (padded.take start)
    else none

end Credential.Cipher
