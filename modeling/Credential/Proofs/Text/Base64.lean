import Credential.Proofs.Text.Utf8
import Credential.Text.Base64
import Credential.Text.Blank

/-!
# Base64 reads what it writes

`decodeOctets_encodeOctets`: the symbols of every byte string are read as that byte string, whatever
is left over at its end. What is written is ASCII without blanks and marks (`IsWritten`), so a text
can carry it on lines of any length.
-/

namespace Credential.Text.Base64

/-! ## Symbols -/

/-- An octet that `encodeOctets` writes: a symbol of the alphabet or padding. -/
def IsWritten (b : UInt8) : Prop :=
  (∃ n < 64, b = symbol n) ∨ b = pad

theorem value?_symbol : ∀ n < 64, value? (symbol n) = some n := by
  decide +kernel

theorem symbol_ne_pad : ∀ n < 64, symbol n ≠ pad := by
  decide +kernel

theorem ascii_symbol : ∀ n < 64, (symbol n).toNat < 128 := by
  decide +kernel

theorem char_symbol : ∀ n < 64,
    isBlank (Char.ofNat (symbol n).toNat) = false ∧ Char.ofNat (symbol n).toNat ≠ '\n' ∧
      Char.ofNat (symbol n).toNat ≠ ':' ∧ Char.ofNat (symbol n).toNat ≠ '-' := by
  decide +kernel

namespace IsWritten

variable {b : UInt8}

theorem ascii (h : IsWritten b) : b.toNat < 128 := by
  rcases h with ⟨n, hn, rfl⟩ | rfl
  · exact ascii_symbol n hn
  · decide

theorem char (h : IsWritten b) :
    isBlank (Char.ofNat b.toNat) = false ∧ Char.ofNat b.toNat ≠ '\n' ∧
      Char.ofNat b.toNat ≠ ':' ∧ Char.ofNat b.toNat ≠ '-' := by
  rcases h with ⟨n, hn, rfl⟩ | rfl
  · exact char_symbol n hn
  · decide

end IsWritten

theorem isWritten_symbol {n : Nat} (h : n < 64) : IsWritten (symbol n) := Or.inl ⟨n, h, rfl⟩

/-- The four values that an octet group is cut into. -/
theorem values_lt (a b c : UInt8) :
    a.toNat / 4 < 64 ∧ a.toNat % 4 * 16 + b.toNat / 16 < 64 ∧
      b.toNat % 16 * 4 + c.toNat / 64 < 64 ∧ c.toNat % 64 < 64 := by
  have ha := a.toNat_lt
  have hb := b.toNat_lt
  have hc := c.toNat_lt
  omega

theorem isWritten_of_mem_encodeOctets {bs : Bytes} {b : UInt8} (h : b ∈ encodeOctets bs) :
    IsWritten b := by
  induction bs using encodeOctets.induct with
  | case1 x y z rest ih =>
      obtain ⟨h1, h2, h3, h4⟩ := values_lt x y z
      simp only [encodeOctets, List.mem_cons] at h
      rcases h with rfl | rfl | rfl | rfl | h
      · exact isWritten_symbol h1
      · exact isWritten_symbol h2
      · exact isWritten_symbol h3
      · exact isWritten_symbol h4
      · exact ih h
  | case2 x y =>
      obtain ⟨h1, h2, -, -⟩ := values_lt x y 0
      have h3 : y.toNat % 16 * 4 < 64 := by omega
      simp only [encodeOctets, List.mem_cons, List.not_mem_nil, or_false] at h
      rcases h with rfl | rfl | rfl | rfl
      · exact isWritten_symbol h1
      · exact isWritten_symbol h2
      · exact isWritten_symbol h3
      · exact Or.inr rfl
  | case3 x =>
      have hx := x.toNat_lt
      have h1 : x.toNat / 4 < 64 := by omega
      have h2 : x.toNat % 4 * 16 < 64 := by omega
      simp only [encodeOctets, List.mem_cons, List.not_mem_nil, or_false] at h
      rcases h with rfl | rfl | rfl | rfl
      · exact isWritten_symbol h1
      · exact isWritten_symbol h2
      · exact Or.inr rfl
      · exact Or.inr rfl
  | case4 => cases h

theorem length_encodeOctets_mod (bs : Bytes) : (encodeOctets bs).length % 4 = 0 := by
  induction bs using encodeOctets.induct with
  | case1 x y z rest ih =>
      simp only [encodeOctets, List.length_cons]
      omega
  | case2 x y => simp [encodeOctets]
  | case3 x => simp [encodeOctets]
  | case4 => rfl

theorem encodeOctets_ne_nil {bs : Bytes} (h : bs ≠ []) : encodeOctets bs ≠ [] := by
  induction bs using encodeOctets.induct with
  | case1 x y z rest => exact List.cons_ne_nil _ _
  | case2 x y => exact List.cons_ne_nil _ _
  | case3 x => exact List.cons_ne_nil _ _
  | case4 => exact absurd rfl h

/-! ## Groups -/

/-- Three octets from their four values. -/
theorem octets_of_values (a b c : UInt8) :
    [UInt8.ofNat (a.toNat / 4 * 4 + (a.toNat % 4 * 16 + b.toNat / 16) / 16),
      UInt8.ofNat ((a.toNat % 4 * 16 + b.toNat / 16) % 16 * 16 +
        (b.toNat % 16 * 4 + c.toNat / 64) / 4),
      UInt8.ofNat ((b.toNat % 16 * 4 + c.toNat / 64) % 4 * 64 + c.toNat % 64)] = [a, b, c] := by
  have ha := a.toNat_lt
  have hb := b.toNat_lt
  have hc := c.toNat_lt
  have h1 : a.toNat / 4 * 4 + (a.toNat % 4 * 16 + b.toNat / 16) / 16 = a.toNat := by omega
  have h2 : (a.toNat % 4 * 16 + b.toNat / 16) % 16 * 16 +
      (b.toNat % 16 * 4 + c.toNat / 64) / 4 = b.toNat := by omega
  have h3 : (b.toNat % 16 * 4 + c.toNat / 64) % 4 * 64 + c.toNat % 64 = c.toNat := by omega
  rw [h1, h2, h3, UInt8.ofNat_toNat, UInt8.ofNat_toNat, UInt8.ofNat_toNat]

theorem decodeGroup_symbols (offset : Nat) (a b c : UInt8) :
    decodeGroup offset (symbol (a.toNat / 4)) (symbol (a.toNat % 4 * 16 + b.toNat / 16))
      (symbol (b.toNat % 16 * 4 + c.toNat / 64)) (symbol (c.toNat % 64)) = .ok [a, b, c] := by
  obtain ⟨h1, h2, h3, h4⟩ := values_lt a b c
  unfold decodeGroup
  rw [value?_symbol _ h1, value?_symbol _ h2, value?_symbol _ h3, value?_symbol _ h4]
  exact congrArg _ (octets_of_values a b c)

/-- A symbol of the last group adds its value. -/
theorem decodeLast_symbol (offset : Nat) (values : List Nat) (last : UInt8) {n : Nat} (h : n < 64)
    (rest : Bytes) :
    decodeLast offset values last 0 (symbol n :: rest) =
      decodeLast offset (values ++ [n]) (symbol n) 0 rest := by
  rw [decodeLast, if_neg (symbol_ne_pad n h), if_neg (by decide), value?_symbol n h]

/-- Padding of the last group is counted. -/
theorem decodeLast_pad (offset : Nat) {values : List Nat} (last : UInt8) {pads : Nat}
    (h : 2 ≤ values.length + pads) (rest : Bytes) :
    decodeLast offset values last pads (pad :: rest) =
      decodeLast offset values last (pads + 1) rest := by
  rw [decodeLast, if_pos rfl, if_neg (by omega)]

theorem decodeLast_nil (offset : Nat) {values : List Nat} (last : UInt8) {pads : Nat}
    (hvalues : 2 ≤ values.length) (hpads : (values.length + pads) % 4 = 0) :
    decodeLast offset values last pads [] =
      lastOctets last (offset + values.length - 1) values := by
  rw [decodeLast, if_neg (by omega), if_neg (by omega)]

theorem decodeLast_three (offset : Nat) (a b c : UInt8) :
    decodeLast offset [] pad 0 (encodeOctets [a, b, c]) = .ok [a, b, c] := by
  obtain ⟨h1, h2, h3, h4⟩ := values_lt a b c
  unfold encodeOctets
  rw [decodeLast_symbol _ _ _ h1, decodeLast_symbol _ _ _ h2, decodeLast_symbol _ _ _ h3,
    decodeLast_symbol _ _ _ h4]
  unfold encodeOctets
  rw [decodeLast_nil _ _ (by simp) (by simp)]
  exact congrArg _ (octets_of_values a b c)

theorem decodeLast_two (offset : Nat) (a b : UInt8) :
    decodeLast offset [] pad 0 (encodeOctets [a, b]) = .ok [a, b] := by
  obtain ⟨h1, h2, -, -⟩ := values_lt a b 0
  have h3 : b.toNat % 16 * 4 < 64 := by omega
  have hfull : b.toNat % 16 * 4 % 4 = 0 := by omega
  have ha := a.toNat_lt
  have hb := b.toNat_lt
  have hfirst : a.toNat / 4 * 4 + (a.toNat % 4 * 16 + b.toNat / 16) / 16 = a.toNat := by omega
  have hsecond : (a.toNat % 4 * 16 + b.toNat / 16) % 16 * 16 + b.toNat % 16 * 4 / 4 = b.toNat := by
    omega
  unfold encodeOctets
  rw [decodeLast_symbol _ _ _ h1, decodeLast_symbol _ _ _ h2, decodeLast_symbol _ _ _ h3,
    decodeLast_pad _ _ (by simp), decodeLast_nil _ _ (by simp) (by simp)]
  calc (if b.toNat % 16 * 4 % 4 = 0 then
          Except.ok [UInt8.ofNat (a.toNat / 4 * 4 + (a.toNat % 4 * 16 + b.toNat / 16) / 16),
            UInt8.ofNat ((a.toNat % 4 * 16 + b.toNat / 16) % 16 * 16 + b.toNat % 16 * 4 / 4)]
        else _)
      = .ok [a, b] := by
        rw [if_pos hfull, hfirst, hsecond, UInt8.ofNat_toNat, UInt8.ofNat_toNat]

theorem decodeLast_one (offset : Nat) (a : UInt8) :
    decodeLast offset [] pad 0 (encodeOctets [a]) = .ok [a] := by
  have ha := a.toNat_lt
  have h1 : a.toNat / 4 < 64 := by omega
  have h2 : a.toNat % 4 * 16 < 64 := by omega
  have hfull : a.toNat % 4 * 16 % 16 = 0 := by omega
  have hfirst : a.toNat / 4 * 4 + a.toNat % 4 * 16 / 16 = a.toNat := by omega
  unfold encodeOctets
  rw [decodeLast_symbol _ _ _ h1, decodeLast_symbol _ _ _ h2, decodeLast_pad _ _ (by simp),
    decodeLast_pad _ _ (by simp), decodeLast_nil _ _ (by simp) (by simp)]
  calc (if a.toNat % 4 * 16 % 16 = 0 then
          Except.ok [UInt8.ofNat (a.toNat / 4 * 4 + a.toNat % 4 * 16 / 16)]
        else _)
      = .ok [a] := by rw [if_pos hfull, hfirst, UInt8.ofNat_toNat]

/-! ## Texts -/

/-- At most four symbols are a last group. -/
theorem decodeGroups_last (offset : Nat) {last : Bytes} (hne : last ≠ []) (h : last.length ≤ 4) :
    decodeGroups offset last = decodeLast offset [] pad 0 last := by
  unfold decodeGroups
  split
  · simp only [List.length_cons] at h
    omega
  · exact absurd rfl hne
  · rfl

theorem decodeGroups_encodeOctets (offset : Nat) (bs : Bytes) :
    decodeGroups offset (encodeOctets bs) = .ok bs := by
  induction bs using encodeOctets.induct generalizing offset with
  | case1 a b c rest ih =>
      by_cases hrest : rest = []
      · subst hrest
        rw [decodeGroups_last _ (encodeOctets_ne_nil (List.cons_ne_nil _ _)) (Nat.le_refl _)]
        exact decodeLast_three offset a b c
      · -- a group with more after it is read by itself, not as a last one
        obtain ⟨e, others, hothers⟩ := List.exists_cons_of_ne_nil (encodeOctets_ne_nil hrest)
        have hlater := ih (offset + 4)
        rw [hothers] at hlater
        rw [encodeOctets, hothers, decodeGroups, decodeGroup_symbols, hlater]
        rfl
  | case2 a b =>
      rw [decodeGroups_last _ (encodeOctets_ne_nil (List.cons_ne_nil _ _)) (Nat.le_refl _)]
      exact decodeLast_two offset a b
  | case3 a =>
      rw [decodeGroups_last _ (encodeOctets_ne_nil (List.cons_ne_nil _ _)) (Nat.le_refl _)]
      exact decodeLast_one offset a
  | case4 => rfl

/-- What is written is read as the byte string that it was written for. -/
theorem decodeOctets_encodeOctets (bs : Bytes) : decodeOctets (encodeOctets bs) = .ok bs := by
  have hstray : strayLast? (encodeOctets bs) = none := by
    unfold strayLast?
    rw [length_encodeOctets_mod]
    rfl
  unfold decodeOctets
  rw [hstray]
  exact decodeGroups_encodeOctets 0 bs

/-- The text of a byte string has its symbols as octets. -/
theorem utf8_encode (bs : Bytes) : Utf8.encode (encode bs) = encodeOctets bs :=
  Utf8.encode_ascii fun _ hb => (isWritten_of_mem_encodeOctets hb).ascii

end Credential.Text.Base64
