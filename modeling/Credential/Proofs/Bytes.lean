import Credential.Bytes
import Mathlib.Algebra.Group.Nat.Defs
import Mathlib.Data.List.Zip
import Mathlib.Data.Nat.Size

/-!
# Numbers, exclusive or, blocks and parts of byte strings

`bigEndian` and `toNat` are inverse to each other on the numbers that a width can hold
(`toNat_bigEndian`, `bigEndian_toNat`), and `byteLength` is the smallest width that can hold a
number (`byteLength_le_iff`). A byte string combined twice with another one is unchanged
(`xor_xor_cancel`), and its blocks put together again are the string (`flatten_blocks`). What stands
at the start of numbered pieces is there with any number of them (`take_flatMap_range`). The search
for a part finds it if and only if it is there (`contains_iff_infix`).
-/

namespace Credential

namespace Bytes

/-! ## Big-endian numbers -/

theorem toNat_append_singleton (bs : Bytes) (b : UInt8) :
    toNat (bs ++ [b]) = toNat bs * 256 + b.toNat := by
  unfold toNat
  rw [List.foldl_append]
  rfl

theorem toNat_append (xs ys : Bytes) :
    toNat (xs ++ ys) = toNat xs * 256 ^ ys.length + toNat ys := by
  induction ys generalizing xs with
  | nil =>
      rw [List.append_nil, List.length_nil, Nat.pow_zero, Nat.mul_one]
      rfl
  | cons y ys ih =>
      have hxs : toNat (xs ++ y :: ys) = toNat (xs ++ [y]) * 256 ^ ys.length + toNat ys := by
        rw [← ih, List.append_assoc]
        rfl
      have hy : toNat (y :: ys) = toNat [y] * 256 ^ ys.length + toNat ys := ih [y]
      have hone : toNat [y] = y.toNat := by
        simp [toNat]
      rw [hxs, hy, hone, toNat_append_singleton, List.length_cons, Nat.pow_succ, Nat.add_mul,
        Nat.mul_assoc, Nat.mul_comm 256, Nat.add_assoc]

theorem toNat_cons (b : UInt8) (bs : Bytes) :
    toNat (b :: bs) = b.toNat * 256 ^ bs.length + toNat bs := by
  have hone : toNat [b] = b.toNat := by
    simp [toNat]
  rw [← hone]
  exact toNat_append [b] bs

theorem toNat_lt_pow (bs : Bytes) : toNat bs < 256 ^ bs.length := by
  induction bs with
  | nil => decide
  | cons b bs ih =>
      have hb : b.toNat + 1 ≤ 256 := b.toNat_lt
      have hmul := Nat.mul_le_mul_right (256 ^ bs.length) hb
      rw [Nat.add_mul] at hmul
      rw [toNat_cons, List.length_cons, Nat.pow_succ]
      omega

@[simp] theorem length_bigEndian (width n : Nat) : (bigEndian width n).length = width := by
  induction width generalizing n with
  | zero => rfl
  | succ width ih =>
      unfold bigEndian
      rw [List.length_append, ih]
      rfl

theorem toNat_bigEndian (width n : Nat) : toNat (bigEndian width n) = n % 256 ^ width := by
  induction width generalizing n with
  | zero =>
      have hone : n % 1 = 0 := Nat.mod_one n
      exact hone.symm
  | succ width ih =>
      have hlast : (UInt8.ofNat n).toNat = n % 256 := UInt8.toNat_ofNat'
      unfold bigEndian
      rw [toNat_append_singleton, ih, hlast, Nat.pow_succ, Nat.mul_comm (256 ^ width), Nat.mod_mul]
      omega

theorem toNat_bigEndian_of_lt {width n : Nat} (h : n < 256 ^ width) :
    toNat (bigEndian width n) = n := by
  rw [toNat_bigEndian, Nat.mod_eq_of_lt h]

theorem bigEndian_toNat_of_length {width : Nat} {bs : Bytes} (h : bs.length = width) :
    bigEndian width (toNat bs) = bs := by
  -- the octets are written from the last one on, so that is where the string is taken apart
  induction width generalizing bs with
  | zero => rw [List.eq_nil_of_length_eq_zero h]; rfl
  | succ width ih =>
      obtain ⟨front, last, rfl⟩ : ∃ front last, bs = front ++ [last] := by
        have hne : bs ≠ [] := List.ne_nil_of_length_eq_add_one h
        exact ⟨_, _, (List.dropLast_concat_getLast hne).symm⟩
      have hfront : front.length = width := by simpa using h
      have hlt : last.toNat < 256 := last.toNat_lt
      have hhigh : (toNat front * 256 + last.toNat) / 256 = toNat front := by omega
      have hlow : UInt8.ofNat (toNat front * 256 + last.toNat) = last := by
        apply UInt8.toNat_inj.1
        rw [UInt8.toNat_ofNat']
        omega
      rw [toNat_append_singleton, bigEndian, hhigh, hlow, ih hfront]

@[simp] theorem bigEndian_toNat (bs : Bytes) : bigEndian bs.length (toNat bs) = bs :=
  bigEndian_toNat_of_length rfl

theorem bigEndian_mod_pow (width n : Nat) :
    bigEndian width (n % 256 ^ width) = bigEndian width n := by
  have h := bigEndian_toNat (bigEndian width n)
  rwa [length_bigEndian, toNat_bigEndian] at h

end Bytes

/-! ## Sizes of numbers -/

theorem bitLength_eq_size (n : Nat) : bitLength n = n.size := by
  unfold bitLength
  split
  · next hzero =>
      rw [hzero]
      rfl
  · next hne =>
      apply Nat.le_antisymm
      · exact Nat.lt_size.2 (Nat.log2_self_le hne)
      · exact Nat.size_le.2 Nat.lt_log2_self

theorem bitLength_le_iff {n width : Nat} : bitLength n ≤ width ↔ n < 2 ^ width := by
  rw [bitLength_eq_size, Nat.size_le]

/-- The numbers of so many octets and seven binary digits more. -/
theorem bitLength_le_add_seven_iff {n width : Nat} :
    bitLength n ≤ 8 * width + 7 ↔ n < 256 ^ width * 128 := by
  rw [bitLength_le_iff, Nat.pow_add, Nat.pow_mul]

theorem byteLength_le_iff {n width : Nat} : byteLength n ≤ width ↔ n < 256 ^ width := by
  have hbits : byteLength n ≤ width ↔ bitLength n ≤ 8 * width := by
    unfold byteLength
    omega
  rw [hbits, bitLength_le_iff, Nat.pow_mul]

theorem byteLength_pos {n : Nat} (h : 0 < n) : 0 < byteLength n := by
  apply Nat.lt_of_not_le
  intro hle
  have hlt := byteLength_le_iff.1 hle
  rw [Nat.pow_zero] at hlt
  omega

/-- The octets that hold a number are enough for it. -/
theorem lt_pow_byteLength (n : Nat) : n < 256 ^ byteLength n :=
  byteLength_le_iff.1 (Nat.le_refl _)

namespace Bytes

/-- The shortest octets of the number that a byte string writes are its octets from the first one on
that is not zero. -/
theorem dropWhile_zero (bs : Bytes) :
    bs.dropWhile (· == 0) = bigEndian (byteLength (toNat bs)) (toNat bs) := by
  induction bs with
  | nil => rfl
  | cons b bs ih =>
      rw [toNat_cons]
      by_cases hb : b = 0
      · have hzero : (0 : UInt8).toNat * 256 ^ bs.length + toNat bs = toNat bs := by
          rw [UInt8.toNat_zero, Nat.zero_mul, Nat.zero_add]
        rw [hb, List.dropWhile_cons_of_pos (by simp), ih, hzero]
      · have hpos : 0 < b.toNat := by
          apply Nat.pos_of_ne_zero
          intro hzero
          exact hb (UInt8.toNat_inj.1 hzero)
        have hlarge : 256 ^ bs.length ≤ b.toNat * 256 ^ bs.length + toNat bs := by
          have hmul := Nat.mul_le_mul_right (256 ^ bs.length) hpos
          omega
        rw [List.dropWhile_cons_of_neg (by simp [hb]), ← toNat_cons]
        rw [← toNat_cons] at hlarge
        refine (bigEndian_toNat_of_length (Nat.le_antisymm ?_ ?_)).symm
        · -- fewer octets hold smaller numbers only
          apply Nat.le_of_not_lt
          intro hshort
          have hlt := byteLength_le_iff.1 (Nat.le_of_lt_succ hshort)
          exact Nat.not_lt_of_le hlarge hlt
        · exact byteLength_le_iff.2 (toNat_lt_pow _)

theorem toNat_replicate_zero (count : Nat) : toNat (List.replicate count 0) = 0 := by
  induction count with
  | zero => rfl
  | succ count ih =>
      rw [List.replicate_succ, toNat_cons, ih, UInt8.toNat_zero, Nat.zero_mul]

/-- Octets at a fixed width are the shortest ones behind zeros. -/
theorem bigEndian_eq_padded {width n : Nat} (h : byteLength n ≤ width) :
    bigEndian width n =
      List.replicate (width - byteLength n) 0 ++ bigEndian (byteLength n) n := by
  have hvalue :
      toNat (List.replicate (width - byteLength n) 0 ++ bigEndian (byteLength n) n) = n := by
    rw [toNat_append, toNat_replicate_zero, Nat.zero_mul, Nat.zero_add,
      toNat_bigEndian_of_lt (lt_pow_byteLength n)]
  have hlength : (List.replicate (width - byteLength n) (0 : UInt8) ++
      bigEndian (byteLength n) n).length = width := by
    rw [List.length_append, List.length_replicate, length_bigEndian]
    omega
  have hoctets := bigEndian_toNat_of_length hlength
  rwa [hvalue] at hoctets

/-! ## Exclusive or -/

/-- Lists combined entry by entry, with an operation that undoes itself, and combined again. -/
theorem zipWith_cancel {α : Type} {f : α → α → α} (hf : ∀ x y, f (f x y) y = x) {xs ys : List α}
    (h : xs.length ≤ ys.length) : List.zipWith f (List.zipWith f xs ys) ys = xs := by
  calc List.zipWith f (List.zipWith f xs ys) ys
      = List.zipWith (fun x y => f (f x y) y) xs ys := by
        rw [List.zipWith_zipWith_left, List.zipWith3_same_right]
    _ = List.zipWith (fun x _ => x) xs ys := by simp only [hf]
    _ = (List.zip xs ys).map Prod.fst := List.map_uncurry_zip_eq_zipWith.symm
    _ = xs := List.map_fst_zip h

@[simp] theorem length_xor (xs ys : Bytes) : (xor xs ys).length = min xs.length ys.length := by
  simp [xor]

/-- A byte string combined with the same octets twice. -/
theorem xor_xor_cancel {xs ys : Bytes} (h : xs.length ≤ ys.length) : xor (xor xs ys) ys = xs := by
  apply zipWith_cancel _ h
  intro x y
  rw [UInt8.xor_assoc, UInt8.xor_self, UInt8.xor_zero]

/-! ## Blocks -/

variable {size : Nat}

@[simp] theorem blocks_nil (size : Nat) : blocks size [] = [] := by
  unfold blocks
  exact dif_pos (Or.inr rfl)

theorem blocks_of_ne_nil (hsize : 0 < size) {bs : Bytes} (h : bs ≠ []) :
    blocks size bs = bs.take size :: blocks size (bs.drop size) := by
  have hcond : ¬ (size = 0 ∨ bs = []) := by
    rintro (hzero | hnil)
    · omega
    · exact h hnil
  rw [blocks]
  exact dif_neg hcond

/-- The octets left after the first block are fewer. -/
theorem length_drop_lt (hsize : 0 < size) {bs : Bytes} (h : bs ≠ []) :
    (bs.drop size).length < bs.length := by
  have hpos := List.length_pos_iff.2 h
  rw [List.length_drop]
  omega

/-- Induction over a byte string block by block. -/
theorem blockInduction (hsize : 0 < size) {motive : Bytes → Prop} (nil : motive [])
    (block : ∀ bs, bs ≠ [] → motive (bs.drop size) → motive bs) (bs : Bytes) : motive bs := by
  by_cases h : bs = []
  · rw [h]
    exact nil
  · exact block bs h (blockInduction hsize nil block (bs.drop size))
termination_by bs.length
decreasing_by exact length_drop_lt hsize h

@[simp] theorem flatten_blocks (hsize : 0 < size) (bs : Bytes) : (blocks size bs).flatten = bs := by
  induction bs using blockInduction hsize with
  | nil => rw [blocks_nil]; rfl
  | block bs h ih =>
      rw [blocks_of_ne_nil hsize h, List.flatten_cons, ih, List.take_append_drop]

/-- A block put in front of a byte string; a short one can only be put in front of nothing. -/
theorem blocks_append {xs : Bytes} (hxs : xs ≠ []) (hle : xs.length ≤ size) (ys : Bytes)
    (hfull : xs.length = size ∨ ys = []) : blocks size (xs ++ ys) = xs :: blocks size ys := by
  have hpos : 0 < xs.length := List.length_pos_iff.2 hxs
  rw [blocks_of_ne_nil (by omega) (by simp [hxs])]
  rcases hfull with hlength | rfl
  · rw [← hlength, List.take_left, List.drop_left]
  · rw [List.append_nil, List.take_of_length_le hle, List.drop_of_length_le hle]

/-- Every block is filled from what is left. -/
theorem ne_nil_of_mem_blocks {bs block : Bytes} (h : block ∈ blocks size bs) : block ≠ [] := by
  by_cases hsize : 0 < size
  · induction bs using blockInduction hsize with
    | nil => simp at h
    | block bs hne ih =>
        rw [blocks_of_ne_nil hsize hne, List.mem_cons] at h
        rcases h with rfl | h
        · intro hnil
          rcases List.take_eq_nil_iff.1 hnil with hzero | hempty
          · omega
          · exact hne hempty
        · exact ih h
  · have hzero : size = 0 := by omega
    rw [hzero, blocks, dif_pos (Or.inl rfl)] at h
    cases h

/-- Whole blocks are all full. -/
theorem length_of_mem_blocks (hsize : 0 < size) {bs block : Bytes} (hwhole : bs.length % size = 0)
    (h : block ∈ blocks size bs) : block.length = size := by
  induction bs using blockInduction hsize with
  | nil => simp at h
  | block bs hne ih =>
      have hle : size ≤ bs.length :=
        Nat.le_of_dvd (List.length_pos_iff.2 hne) (Nat.dvd_of_mod_eq_zero hwhole)
      rw [blocks_of_ne_nil hsize hne, List.mem_cons] at h
      rcases h with rfl | h
      · rw [List.length_take]
        omega
      · apply ih _ h
        rw [List.length_drop, ← Nat.mod_eq_sub_mod hle, hwhole]

/-- Full blocks put together are cut into the same blocks again. -/
theorem blocks_flatten (hsize : 0 < size) {bs : List Bytes} (h : ∀ b ∈ bs, b.length = size) :
    blocks size bs.flatten = bs := by
  induction bs with
  | nil => exact blocks_nil size
  | cons b bs ih =>
      obtain ⟨hfirst, hothers⟩ := List.forall_mem_cons.1 h
      have hne : b ≠ [] := List.ne_nil_of_length_pos (by omega)
      rw [List.flatten_cons, blocks_append hne (Nat.le_of_eq hfirst) _ (Or.inl hfirst), ih hothers]

/-! ## Numbered pieces -/

section

variable {piece : Nat → Bytes} {width : Nat} (h : ∀ i, (piece i).length = width)
include h

theorem length_flatMap_range (count : Nat) :
    ((List.range count).flatMap piece).length = width * count := by
  induction count with
  | zero => rfl
  | succ count ih =>
      rw [List.range_succ, List.flatMap_append, List.length_append, ih, List.flatMap_singleton, h,
        Nat.mul_succ]

/-- More pieces do not change the octets that were there before. -/
theorem take_flatMap_range {length count more : Nat} (hlength : length ≤ width * count)
    (hcount : count ≤ more) :
    ((List.range more).flatMap piece).take length =
      ((List.range count).flatMap piece).take length := by
  obtain ⟨extra, rfl⟩ := Nat.exists_eq_add_of_le hcount
  rw [List.range_add, List.flatMap_append, List.take_append_of_le_length]
  rw [length_flatMap_range h]
  exact hlength

end

/-! ## Parts -/

theorem contains_iff_infix {part bs : Bytes} : contains part bs = true ↔ part <:+: bs := by
  induction bs with
  | nil =>
      rw [contains, List.isEmpty_iff]
      exact List.infix_nil.symm
  | cons b bs ih =>
      rw [contains, Bool.or_eq_true, List.isPrefixOf_iff_prefix, ih]
      exact List.infix_cons_iff.symm

end Bytes

end Credential
