import Credential.Text.Decimal

/-!
# Decimal numerals

A text writes a number if it is an optional plus sign, any number of zeros and the digits of the
number (`Numeral`). `readBelow?_eq_some_iff` says that these are the texts that are read, each as
the number it writes, as long as this is below the bound. Every text of digits is of this form,
since zeros in front do not count (`exists_zeros`).
-/

namespace Credential.Text.Decimal

/-- A number with the sign and the zeros that are written in front of its digits. -/
structure Numeral where
  plus : Bool
  zeros : Nat
  value : Nat
  deriving DecidableEq, Repr

namespace Numeral

/-- The digits of a numeral, with the zeros in front. -/
def digits (n : Numeral) : List Char :=
  List.replicate n.zeros '0' ++ Nat.toDigits 10 n.value

/-- The text of a numeral. -/
def text (n : Numeral) : List Char :=
  (if n.plus then ['+'] else []) ++ n.digits

/-- The numeral of a number without a sign and without zeros in front. -/
def canonical (value : Nat) : Numeral := ⟨false, 0, value⟩

theorem digits_ne_nil (n : Numeral) : n.digits ≠ [] := by
  unfold digits
  simp [Nat.toDigits_ne_nil]

theorem isDigit_of_mem_digits {n : Numeral} {c : Char} (h : c ∈ n.digits) : c.isDigit = true := by
  rcases List.mem_append.1 h with hzero | hdigit
  · rw [List.eq_of_mem_replicate hzero]
    rfl
  · exact Nat.isDigit_of_mem_toDigits (by decide) (by decide) hdigit

/-- A text has no characters but digits and plus signs. -/
theorem not_mem_text {n : Numeral} {c : Char} (hdigit : c.isDigit = false) (hplus : c ≠ '+') :
    c ∉ n.text := by
  intro hmem
  rcases List.mem_append.1 hmem with hsign | hmem
  · split at hsign
    · exact hplus (List.mem_singleton.1 hsign)
    · cases hsign
  · rw [isDigit_of_mem_digits hmem] at hdigit
    cases hdigit

theorem dropPlus_text (n : Numeral) : dropPlus n.text = n.digits := by
  obtain ⟨plus, zeros, value⟩ := n
  cases plus with
  | true => rfl
  | false =>
      -- a text without a sign begins with a digit
      cases hdigits : (Numeral.mk false zeros value).digits with
      | nil => exact absurd hdigits (digits_ne_nil _)
      | cons c cs =>
          have hc : c ≠ '+' := by
            rintro rfl
            have hdigit : '+'.isDigit = true :=
              isDigit_of_mem_digits (n := ⟨false, zeros, value⟩) (hdigits ▸ List.mem_cons_self)
            exact absurd hdigit (by decide)
          have htext : (Numeral.mk false zeros value).text = c :: cs := hdigits
          rw [htext, dropPlus.eq_2 _ fun rest h => hc (List.cons.inj h).1]

/-- Zeros in front do not change the number. -/
theorem ofDigitChars_digits (n : Numeral) : Nat.ofDigitChars 10 n.digits 0 = n.value := by
  unfold digits
  rw [Nat.ofDigitChars_append, Nat.ofDigitChars_replicate_zero, Nat.mul_zero,
    Nat.ofDigitChars_ten_toDigits]

end Numeral

/-! ## Reading -/

theorem readDigits?_eq_some_iff {cs : List Char} {n : Nat} :
    readDigits? cs = some n ↔
      cs ≠ [] ∧ (∀ c ∈ cs, c.isDigit = true) ∧ Nat.ofDigitChars 10 cs 0 = n := by
  unfold readDigits?
  rw [Option.ite_none_right_eq_some, List.all_eq_true, Option.some.injEq, and_assoc]

theorem digitChar_of_isDigit {c : Char} (h : c.isDigit = true) :
    c.toNat - 48 < 10 ∧ Nat.digitChar (c.toNat - 48) = c := by
  have hbounds : 48 ≤ c.toNat ∧ c.toNat ≤ 57 := by
    simpa [Char.isDigit, UInt32.le_iff_toNat_le] using h
  have hlt : c.toNat - 48 < 10 := by omega
  refine ⟨hlt, Char.toNat_inj.1 ?_⟩
  rw [Nat.toNat_digitChar_of_lt_ten hlt]
  omega

/-- Digits after those of a positive number are digits of the larger number. -/
theorem toDigits_append {cs : List Char} (hdigits : ∀ c ∈ cs, c.isDigit = true) {n : Nat}
    (hpos : 0 < n) : Nat.toDigits 10 n ++ cs = Nat.toDigits 10 (Nat.ofDigitChars 10 cs n) := by
  induction cs generalizing n with
  | nil => rw [List.append_nil, Nat.ofDigitChars_nil]
  | cons c cs ih =>
      obtain ⟨hc, hothers⟩ := List.forall_mem_cons.1 hdigits
      obtain ⟨hlt, hchar⟩ := digitChar_of_isDigit hc
      calc Nat.toDigits 10 n ++ c :: cs
          = Nat.toDigits 10 n ++ Nat.toDigits 10 (c.toNat - 48) ++ cs := by
            rw [Nat.toDigits_of_lt_base hlt, hchar, List.append_assoc, List.singleton_append]
        _ = Nat.toDigits 10 (10 * n + (c.toNat - 48)) ++ cs := by
            rw [Nat.toDigits_append_toDigits (by decide) hpos hlt]
        _ = Nat.toDigits 10 (Nat.ofDigitChars 10 (c :: cs) n) := by
            rw [ih hothers (by omega), Nat.ofDigitChars_cons]
            rfl

/-- Digits are those of the number they write, with zeros in front. -/
theorem exists_zeros {cs : List Char} (hne : cs ≠ []) (hdigits : ∀ c ∈ cs, c.isDigit = true) :
    ∃ zeros, cs = List.replicate zeros '0' ++ Nat.toDigits 10 (Nat.ofDigitChars 10 cs 0) := by
  induction cs with
  | nil => exact absurd rfl hne
  | cons c cs ih =>
      obtain ⟨hc, hothers⟩ := List.forall_mem_cons.1 hdigits
      obtain ⟨hlt, hchar⟩ := digitChar_of_isDigit hc
      have hvalue : Nat.ofDigitChars 10 (c :: cs) 0 = Nat.ofDigitChars 10 cs (c.toNat - 48) := by
        rw [Nat.ofDigitChars_cons, Nat.mul_zero, Nat.zero_add]
        rfl
      rw [hvalue]
      by_cases hzero : c.toNat - 48 = 0
      · obtain rfl : c = '0' := by rw [← hchar, hzero]; rfl
        rw [hzero]
        cases cs with
        | nil => exact ⟨0, rfl⟩
        | cons d cs =>
            obtain ⟨zeros, hzeros⟩ := ih (List.cons_ne_nil _ _) hothers
            refine ⟨zeros + 1, ?_⟩
            rw [List.replicate_succ, List.cons_append, ← hzeros]
      · refine ⟨0, ?_⟩
        rw [← toDigits_append hothers (Nat.pos_of_ne_zero hzero), Nat.toDigits_of_lt_base hlt,
          hchar]
        rfl

/-- The texts of a number below the bound are those of its numerals. -/
theorem readBelow?_eq_some_iff {bound : Nat} {cs : List Char} {value : Nat} :
    readBelow? bound cs = some value ↔
      value < bound ∧ ∃ n : Numeral, n.value = value ∧ n.text = cs := by
  have hread : readBelow? bound cs = some value ↔
      value < bound ∧ readDigits? (dropPlus cs) = some value := by
    unfold readBelow?
    split
    · next found hfound =>
        rw [Option.ite_none_right_eq_some, hfound]
        constructor
        · rintro ⟨hlt, hsame⟩
          cases hsame
          exact ⟨hlt, rfl⟩
        · rintro ⟨hlt, hsame⟩
          cases hsame
          exact ⟨hlt, rfl⟩
    · next hnone => simp [hnone]
  rw [hread, readDigits?_eq_some_iff]
  refine and_congr_right fun _ => ?_
  constructor
  · rintro ⟨hne, hdigits, rfl⟩
    obtain ⟨zeros, hzeros⟩ := exists_zeros hne hdigits
    unfold dropPlus at hne hdigits hzeros ⊢
    split at hzeros
    · next rest => exact ⟨⟨true, zeros, _⟩, rfl, congrArg ('+' :: ·) hzeros.symm⟩
    · exact ⟨⟨false, zeros, _⟩, rfl, hzeros.symm⟩
  · rintro ⟨n, rfl, rfl⟩
    rw [n.dropPlus_text]
    exact ⟨n.digits_ne_nil, fun c => Numeral.isDigit_of_mem_digits, n.ofDigitChars_digits⟩

end Credential.Text.Decimal
