import Credential.Proofs.Cipher.Decrypt

/-!
# Padded texts

A padded text is a text with `k` octets of value `k` after it, for some `k` from 1 to the block size
(`PaddedBy`). `unpad?` takes off exactly that: it ends in a text if and only if it is given the text
padded (`unpad?_eq_some_iff`). `pad` adds what completes the last block, or one block if none is
begun.
-/

namespace Credential.Cipher

variable {size : Nat} {text padded : Bytes}

theorem length_pad (size : Nat) (text : Bytes) :
    (pad size text).length = text.length + (size - text.length % size) := by
  simp [pad]

theorem wholeBlocks_pad (hsize : 0 < size) (text : Bytes) : WholeBlocks size (pad size text) := by
  have hlt := Nat.mod_lt text.length hsize
  constructor
  · intro hnil
    have hlength := length_pad size text
    rw [hnil, List.length_nil] at hlength
    omega
  · -- the padding completes the last block, or is one more block of its own
    have hsplit : text.length + (size - text.length % size) =
        size * (text.length / size) + size := by
      have hdiv := Nat.div_add_mod text.length size
      omega
    rw [length_pad, hsplit, Nat.add_mod_right, Nat.mul_mod_right]

/-! ## Taking a padding off -/

/-- A text with octets after it, from one to a block of them, whose value is their number. -/
def PaddedBy (size : Nat) (text padded : Bytes) : Prop :=
  ∃ count, 1 ≤ count ∧ count ≤ size ∧
    padded = text ++ List.replicate count (UInt8.ofNat count)

theorem paddedBy_pad (hsize : 0 < size) (text : Bytes) : PaddedBy size text (pad size text) := by
  have hlt := Nat.mod_lt text.length hsize
  refine ⟨size - text.length % size, ?_, ?_, rfl⟩
  · omega
  · omega

/-- The last octet tells how many octets to take off, and they all agree with it. -/
theorem unpad?_of_paddedBy (hsize : size < 256) (h : PaddedBy size text padded) :
    unpad? size padded = some text := by
  obtain ⟨count, hpos, hle, rfl⟩ := h
  have hoctet : (UInt8.ofNat count).toNat = count := by
    rw [UInt8.toNat_ofNat']
    omega
  have hlast : (text ++ List.replicate count (UInt8.ofNat count)).getLast? =
      some (UInt8.ofNat count) := by
    rw [List.getLast?_append, List.getLast?_replicate, if_neg (by omega)]
    rfl
  simp [unpad?, hlast, hoctet, hpos, hle]

theorem paddedBy_of_unpad? (h : unpad? size padded = some text) : PaddedBy size text padded := by
  cases hlast : padded.getLast? with
  | none => simp [unpad?, hlast] at h
  | some last =>
    simp only [unpad?, hlast, Option.ite_none_right_eq_some, Option.some.injEq] at h
    obtain ⟨⟨hpos, hle, hfits, hall⟩, rfl⟩ := h
    refine ⟨last.toNat, hpos, hle, ?_⟩
    -- what is cut off has the length that its last octet says, and no other octet
    have hadded : padded.drop (padded.length - last.toNat) =
        List.replicate last.toNat (UInt8.ofNat last.toNat) := by
      rw [List.eq_replicate_iff, List.length_drop, UInt8.ofNat_toNat]
      constructor
      · omega
      · intro b hb
        simpa using List.all_eq_true.1 hall b hb
    rw [← hadded, List.take_append_drop]

/-- A padding is taken off exactly where there is one. -/
theorem unpad?_eq_some_iff (hsize : size < 256) :
    unpad? size padded = some text ↔ PaddedBy size text padded :=
  ⟨paddedBy_of_unpad?, unpad?_of_paddedBy hsize⟩

theorem unpad?_pad (hsize : 0 < size) (hle : size < 256) (text : Bytes) :
    unpad? size (pad size text) = some text :=
  unpad?_of_paddedBy hle (paddedBy_pad hsize text)

/-! ## The end of a decryption -/

variable {algorithm : Algorithm} {mode : Mode}

/-- A mode that pads gives the text whose padding it finds. -/
theorem unpadded_eq_ok_iff (hpadded : mode.isPadded = true) (hsize : algorithm.blockSize < 256) :
    unpadded algorithm mode padded = .ok text ↔ PaddedBy algorithm.blockSize text padded := by
  rw [← unpad?_eq_some_iff hsize]
  cases hunpad : unpad? algorithm.blockSize padded <;> simp [unpadded, hpadded, hunpad]

/-- A mode that pads fails where there is no padding. -/
theorem unpadded_of_not_paddedBy (hpadded : mode.isPadded = true)
    (h : ∀ text, ¬ PaddedBy algorithm.blockSize text padded) :
    unpadded algorithm mode padded = .error .padding := by
  cases hunpad : unpad? algorithm.blockSize padded with
  | none => simp [unpadded, hpadded, hunpad]
  | some text => exact absurd (paddedBy_of_unpad? hunpad) (h text)

end Credential.Cipher
