import Credential.Proofs.Stages
import Credential.Proofs.Text.Utf8
import Credential.Text.Blank
import Credential.Text.Hex

/-!
# Hexadecimal digits read what they write

The digits of a byte string are read as that byte string, each digit in either case, and no other
text is (`decode_eq_ok_iff`).
-/

namespace Credential.Text.Hex

theorem value?_digit_of_lower : ∀ code < 128, ∀ n < 16,
    (Char.ofNat code).toLower = digit n → value? (UInt8.ofNat code) = some (UInt8.ofNat n) := by
  decide +kernel

theorem digit_bounds : ∀ n < 16, 48 ≤ (digit n).toNat ∧ (digit n).toNat < 128 := by
  decide +kernel

/-- A character beyond ASCII is its own lower case. -/
theorem toLower_of_le {c : Char} (h : 128 ≤ c.toNat) : c.toLower = c := by
  have hz : ¬ c ≤ 'Z' := by
    intro hle
    have hnat : c.toNat ≤ 90 := hle
    omega
  unfold Char.toLower
  exact dif_neg fun hupper => hz hupper.2

/-- A digit, in either case, is ASCII. -/
theorem ascii_of_lower {c : Char} {n : Nat} (hn : n < 16) (h : c.toLower = digit n) :
    c.toNat < 128 := by
  apply Nat.lt_of_not_le
  intro hle
  have hdigit := digit_bounds n hn
  rw [← h, toLower_of_le hle] at hdigit
  omega

theorem value?_of_lower {c : Char} {n : Nat} (hn : n < 16) (h : c.toLower = digit n) :
    value? (UInt8.ofNat c.toNat) = some (UInt8.ofNat n) := by
  apply value?_digit_of_lower _ (ascii_of_lower hn h) _ hn
  rw [Char.ofNat_toNat]
  exact h

/-- The characters that write a byte string, in lower case. -/
def digits (bs : Bytes) : List Char :=
  bs.flatMap fun b => [digit (b.toNat / 16), digit (b.toNat % 16)]

theorem toList_encode (bs : Bytes) : (encode bs).toList = digits bs := String.toList_ofList

theorem halves_lt (b : UInt8) : b.toNat / 16 < 16 ∧ b.toNat % 16 < 16 := by
  have hb := b.toNat_lt
  omega

/-- The two characters of the first octet and those of the rest. -/
theorem exists_of_lower_cons {b : UInt8} {bs : Bytes} {cs : List Char}
    (h : cs.map Char.toLower = digits (b :: bs)) :
    ∃ high low rest, cs = high :: low :: rest ∧ high.toLower = digit (b.toNat / 16) ∧
      low.toLower = digit (b.toNat % 16) ∧ rest.map Char.toLower = digits bs := by
  obtain ⟨high, tail, rfl, hhigh, htail⟩ := List.map_eq_cons_iff.1 h
  obtain ⟨low, rest, rfl, hlow, hrest⟩ := List.map_eq_cons_iff.1 htail
  exact ⟨high, low, rest, rfl, hhigh, hlow, hrest⟩

/-- Each character of such a text is a digit, in either case. -/
theorem exists_digit_of_mem {bs : Bytes} {cs : List Char} (h : cs.map Char.toLower = digits bs) :
    ∀ c ∈ cs, ∃ n < 16, c.toLower = digit n := by
  intro c hc
  have hmem : c.toLower ∈ digits bs := h ▸ List.mem_map_of_mem hc
  obtain ⟨b, -, hb⟩ := List.mem_flatMap.1 hmem
  obtain ⟨hhigh, hlow⟩ := halves_lt b
  simp only [List.mem_cons, List.not_mem_nil, or_false] at hb
  rcases hb with hb | hb
  · exact ⟨_, hhigh, hb⟩
  · exact ⟨_, hlow, hb⟩

theorem decodePairs_of_lower (position : Nat) {bs : Bytes} {cs : List Char}
    (h : cs.map Char.toLower = digits bs) :
    decodePairs position (cs.map fun c => UInt8.ofNat c.toNat) = .ok bs := by
  -- an octet takes two characters, so the induction is on the octets
  induction bs generalizing position cs with
  | nil =>
      have hnil : cs = [] := List.map_eq_nil_iff.1 h
      rw [hnil]
      rfl
  | cons b bs ih =>
      obtain ⟨high, low, rest, rfl, hhigh, hlow, hrest⟩ := exists_of_lower_cons h
      obtain ⟨hhighLt, hlowLt⟩ := halves_lt b
      have hoctet : UInt8.ofNat (b.toNat / 16) * 16 + UInt8.ofNat (b.toNat % 16) = b := by
        have hb := b.toNat_lt
        apply UInt8.toNat_inj.1
        simp only [UInt8.toNat_add, UInt8.toNat_mul, UInt8.toNat_ofNat', UInt8.reduceToNat]
        omega
      rw [List.map_cons, List.map_cons, decodePairs, value?_of_lower hhighLt hhigh,
        value?_of_lower hlowLt hlow]
      dsimp only
      rw [ih (position + 2) hrest, hoctet]
      rfl

theorem length_digits (bs : Bytes) : (digits bs).length = 2 * bs.length := by
  induction bs with
  | nil => rfl
  | cons b bs ih =>
      have hcons :
          digits (b :: bs) = digit (b.toNat / 16) :: digit (b.toNat % 16) :: digits bs := rfl
      rw [hcons, List.length_cons, List.length_cons, ih, List.length_cons]
      omega

/-- The digits of a byte string in any case are read as that byte string. -/
theorem decode_of_lower {s : String} {bs : Bytes}
    (h : s.toList.map Char.toLower = (encode bs).toList) : decode s = .ok bs := by
  rw [toList_encode] at h
  have hascii : ∀ c ∈ s.toList, c.toNat < 128 := by
    intro c hc
    obtain ⟨n, hn, hlower⟩ := exists_digit_of_mem h c hc
    exact ascii_of_lower hn hlower
  have hlength : s.toList.length = 2 * bs.length := by
    have hmap := congrArg List.length h
    rwa [List.length_map, length_digits] at hmap
  have hodd : ¬ (Utf8.encode s).length % 2 = 1 := by
    rw [Utf8.encode_of_ascii hascii, List.length_map]
    omega
  unfold decode
  dsimp only
  rw [if_neg hodd, Utf8.encode_of_ascii hascii]
  exact decodePairs_of_lower 0 h

/-! ## Digits that were read -/

/-- An octet with a value is the code of the digit for it, in either case. -/
theorem digit_of_value? : ∀ code < 256, ∀ v ∈ value? (UInt8.ofNat code),
    code < 128 ∧ v.toNat < 16 ∧ (Char.ofNat code).toLower = digit v.toNat := by
  decide +kernel

theorem lower_of_value? {b v : UInt8} (h : value? b = some v) :
    b.toNat < 128 ∧ v.toNat < 16 ∧ (Char.ofNat b.toNat).toLower = digit v.toNat := by
  apply digit_of_value? b.toNat b.toNat_lt v
  rw [UInt8.ofNat_toNat]
  exact h

/-- Two digits are those of the octet they write. -/
theorem halves_of_digits {h l : UInt8} (hh : h.toNat < 16) (hl : l.toNat < 16) :
    (h * 16 + l).toNat / 16 = h.toNat ∧ (h * 16 + l).toNat % 16 = l.toNat := by
  simp only [UInt8.toNat_add, UInt8.toNat_mul, UInt8.reduceToNat]
  omega

theorem lower_of_decodePairs {position : Nat} {octets bs : Bytes} (heven : octets.length % 2 = 0)
    (h : decodePairs position octets = .ok bs) :
    (∀ b ∈ octets, b.toNat < 128) ∧
      octets.map (fun b => (Char.ofNat b.toNat).toLower) = digits bs := by
  -- along the recursion of the reader, which takes two digits off
  induction position, octets using decodePairs.induct generalizing bs with
  | case1 position high low rest hhigh =>
      rw [decodePairs, hhigh] at h
      cases h
  | case2 position high low rest hi hhigh hlow =>
      rw [decodePairs, hhigh, hlow] at h
      cases h
  | case3 position high low rest hi lo hlow hhigh ih =>
      have hrest : rest.length % 2 = 0 := by
        rw [List.length_cons, List.length_cons] at heven
        omega
      rw [decodePairs, hhigh, hlow] at h
      obtain ⟨others, hothers, rfl⟩ := map_eq_ok_iff.1 h
      obtain ⟨hascii, hdigits⟩ := ih hrest hothers
      obtain ⟨hhighLt, hhi, hhighDigit⟩ := lower_of_value? hhigh
      obtain ⟨hlowLt, hlo, hlowDigit⟩ := lower_of_value? hlow
      obtain ⟨hfirst, hsecond⟩ := halves_of_digits hhi hlo
      refine ⟨List.forall_mem_cons.2 ⟨hhighLt, List.forall_mem_cons.2 ⟨hlowLt, hascii⟩⟩, ?_⟩
      rw [List.map_cons, List.map_cons, hdigits, hhighDigit, hlowDigit, ← hfirst, ← hsecond]
      rfl
  | case4 octets position hpairs =>
      -- no pair is left, so an even number of digits is none
      cases octets with
      | nil =>
          cases h
          exact ⟨List.forall_mem_nil _, rfl⟩
      | cons high rest =>
          cases rest with
          | nil => simp at heven
          | cons low rest => exact absurd rfl (hpairs high low rest)

/-- The texts of a byte string are its digits in any case. -/
theorem decode_eq_ok_iff {s : String} {bs : Bytes} :
    decode s = .ok bs ↔ s.toList.map Char.toLower = (encode bs).toList := by
  constructor
  · intro h
    unfold decode at h
    dsimp only at h
    split at h
    · cases h
    · next heven =>
        obtain ⟨hascii, hdigits⟩ := lower_of_decodePairs (by omega) h
        have hlist : s.toList = (Utf8.encode s).map fun b => Char.ofNat b.toNat := by
          have htext := congrArg String.toList (Utf8.eq_ascii_of_encode hascii)
          rwa [Utf8.ascii, String.toList_ofList] at htext
        rw [toList_encode, ← hdigits, hlist, List.map_map]
        rfl
  · exact decode_of_lower

/-- No digit is a blank or a mark of a header. -/
theorem char_digit_of_lower : ∀ code < 128, ∀ n < 16, (Char.ofNat code).toLower = digit n →
    isBlank (Char.ofNat code) = false ∧ Char.ofNat code ≠ '\n' := by
  decide +kernel

theorem char_of_lower {bs : Bytes} {cs : List Char} (h : cs.map Char.toLower = digits bs) :
    ∀ c ∈ cs, isBlank c = false ∧ c ≠ '\n' := by
  intro c hc
  obtain ⟨n, hn, hlower⟩ := exists_digit_of_mem h c hc
  have hchar := char_digit_of_lower _ (ascii_of_lower hn hlower) n hn
  rw [Char.ofNat_toNat] at hchar
  exact hchar hlower

end Credential.Text.Hex
