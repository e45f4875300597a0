import Credential.Proofs.Key.RsaKey
import Mathlib.FieldTheory.Finite.Basic

/-!
# Factors recovered from the exponents

The factors of a modulus `n` are recovered from the number `a = (d e - 1) gcd (n - 1, d e - 1)`.
With `a = m n + r`, the quotient of `n - r` and `m + 1` is taken for the sum of the factors less
one, and the factors are the two numbers with this sum and the product `n`
(`factorsOfSum_eq_ok_iff`). So `x` and `y` are recovered if and only if
`n - r = (m + 1) (x + y - 1)` (`recoverFactors_eq_ok_iff`).
-/

namespace Credential.Key.Rsa

variable {n e d x y sum : Nat}

/-! ## What is recovered -/

/-- The larger and the smaller one of the two numbers with the given product and sum. -/
def factorsOfSum (n sum : Nat) : Outcome Error (Nat × Nat) :=
  if sum * sum ≤ 4 * n then .error (.rsa .invalidArguments)
  else
    let square := sum * sum - 4 * n
    let difference := Nat.sqrt square
    if difference * difference ≠ square then .error (.rsa .invalidArguments)
    else .ok ((sum + difference) / 2, (sum - difference) / 2)

theorem factorsOfSum_eq_ok_iff :
    factorsOfSum n sum = .ok (x, y) ↔ x + y = sum ∧ x * y = n ∧ y < x := by
  unfold factorsOfSum
  constructor
  · intro h
    dsimp only at h
    split_ifs at h with hfew hroot
    have hsquare := Decidable.of_not_not hroot
    generalize Nat.sqrt (sum * sum - 4 * n) = difference at h hsquare
    have hle : difference ≤ sum := Nat.mul_self_le_mul_self_iff.1 (by omega)
    obtain ⟨low, rfl⟩ : ∃ low, sum = difference + low := ⟨sum - difference, by omega⟩
    -- the sum and the difference of the factors are both even or both odd
    have hproduct : low * (2 * difference + low) = 4 * n := by
      have hexpand : (difference + low) * (difference + low) =
          difference * difference + low * (2 * difference + low) := by ring
      omega
    have heven : Even (low * (2 * difference + low)) := hproduct ▸ ⟨2 * n, by ring⟩
    obtain ⟨half, rfl⟩ : Even low := by
      rcases Nat.even_mul.1 heven with hlow | hother
      · exact hlow
      · exact (Nat.even_add.1 hother).1 (even_two_mul difference)
    cases h
    have hpos : 0 < difference := by
      apply Nat.pos_of_ne_zero
      rintro rfl
      omega
    have hlarge : (difference + (half + half) + difference) / 2 = difference + half := by omega
    have hsmall : (difference + (half + half) - difference) / 2 = half := by omega
    rw [hlarge, hsmall]
    exact ⟨by omega, by nlinarith, by omega⟩
  · rintro ⟨rfl, rfl, hlt⟩
    obtain ⟨t, rfl⟩ : ∃ t, x = y + t := ⟨x - y, by omega⟩
    have hsquare : (y + t + y) * (y + t + y) = 4 * ((y + t) * y) + t * t := by ring
    have hpos : 0 < t * t := Nat.mul_pos (by omega) (by omega)
    dsimp only
    rw [hsquare, if_neg (by omega), Nat.add_sub_cancel_left, Nat.sqrt_eq,
      if_neg (not_not_intro rfl)]
    have hlarge : (y + t + y + t) / 2 = y + t := by omega
    have hsmall : (y + t + y - t) / 2 = y := by omega
    rw [hlarge, hsmall]

/-- Numbers that have not the given product and sum are the only fault. -/
theorem factorsOfSum_ok_or (n sum : Nat) :
    (∃ x y, factorsOfSum n sum = .ok (x, y)) ∨
      factorsOfSum n sum = .error (.rsa .invalidArguments) := by
  unfold factorsOfSum
  dsimp only
  split_ifs
  · exact Or.inr rfl
  · exact Or.inr rfl
  · exact Or.inl ⟨_, _, rfl⟩

/-- The public exponents from which factors are recovered. -/
structure IsRecoveryExponent (e : Nat) : Prop where
  large : 65536 < e
  bounded : e < exponentBound

/-- The number from which the factors are recovered. -/
def recoveryMultiple (n e d : Nat) : Nat :=
  (d * e - 1) * Nat.gcd (n - 1) (d * e - 1)

theorem recoverFactors_of_small (h : e ≤ 65536) (n d : Nat) :
    recoverFactors n e d = .error (.rsa .invalidArguments) := by
  unfold recoverFactors
  rw [if_pos (Or.inl h)]

section Recovery

variable (he : IsRecoveryExponent e) (hd : 0 < d) (hn : 0 < n)

include he hd hn

/-- The factors are the numbers whose sum the division by the modulus shows. -/
theorem recoverFactors_eq : recoverFactors n e d =
    if (n - recoveryMultiple n e d % n) % (recoveryMultiple n e d / n + 1) ≠ 0 then
      .error (.rsa .invalidArguments)
    else
      factorsOfSum n ((n - recoveryMultiple n e d % n) / (recoveryMultiple n e d / n + 1) + 1) := by
  have hlarge := he.large
  have hbounded := he.bounded
  have hexponents : 0 < d * e := Nat.mul_pos hd (by omega)
  unfold recoverFactors
  rw [if_neg (by omega), if_neg (by omega)]
  rfl

theorem recoverFactors_eq_ok_iff : recoverFactors n e d = .ok (x, y) ↔
    x * y = n ∧ y < x ∧
      n - recoveryMultiple n e d % n = (recoveryMultiple n e d / n + 1) * (x + y - 1) := by
  rw [recoverFactors_eq he hd hn]
  constructor
  · intro h
    split_ifs at h with hdivides
    obtain ⟨hsum, hproduct, hlt⟩ := factorsOfSum_eq_ok_iff.1 h
    refine ⟨hproduct, hlt, ?_⟩
    rw [hsum, Nat.add_sub_cancel]
    exact (Nat.mul_div_cancel' (Nat.dvd_of_mod_eq_zero (Decidable.of_not_not hdivides))).symm
  · rintro ⟨hproduct, hlt, hsum⟩
    rw [hsum, Nat.mul_mod_right, if_neg (not_not_intro rfl),
      Nat.mul_div_cancel_left _ (Nat.succ_pos _)]
    exact factorsOfSum_eq_ok_iff.2 ⟨by omega, hproduct, hlt⟩

/-- Where no factors are recovered, the numbers are called invalid. -/
theorem recoverFactors_ok_or : (∃ x y, recoverFactors n e d = .ok (x, y)) ∨
    recoverFactors n e d = .error (.rsa .invalidArguments) := by
  rw [recoverFactors_eq he hd hn]
  split_ifs
  · exact Or.inr rfl
  · exact factorsOfSum_ok_or _ _

end Recovery

end Credential.Key.Rsa
