import Credential.Key.Rsa
import Credential.Proofs.Bytes
import Credential.Proofs.Key.Modular
import Credential.Proofs.Stages
import Mathlib.Tactic.SplitIfs

/-!
# The numbers of an RSA key

A key that is handed out has passed the check of its numbers (`isChecked_of_ofParameters`): its
factors are above 1, their product is the modulus, and the two exponents are inverse to each other
modulo both factors less one. From this alone every root is below the modulus (`root_lt`), so that
it fits the octets of the modulus.
-/

namespace Credential.Key

/-! ## Powers and residues -/

namespace Modular

theorem powMod_lt {modulus : Nat} (h : 0 < modulus) (base exponent : Nat) :
    powMod base exponent modulus < modulus := by
  rw [powMod_eq]
  exact Nat.mod_lt _ h

/-- The combined number is below the product. -/
theorem combine_lt {p q i a b : Nat} (hp : 0 < p) (hb : b < q) : combine p q i a b < p * q := by
  have hdigit : (a + (p - b % p)) * i % p < p := Nat.mod_lt _ hp
  unfold combine
  calc b + q * ((a + (p - b % p)) * i % p)
      < q + q * ((a + (p - b % p)) * i % p) := Nat.add_lt_add_right hb _
    _ = q * ((a + (p - b % p)) * i % p + 1) := by rw [Nat.mul_succ, Nat.add_comm]
    _ ≤ q * p := Nat.mul_le_mul_left q hdigit
    _ = p * q := Nat.mul_comm q p

end Modular

namespace Rsa.PrivateKey

/-! ## Checked keys -/

/-- The numbers that pass the check. -/
structure IsChecked (key : PrivateKey) : Prop where
  exponentBelow : key.publicExponent < key.modulus
  modulusOdd : key.modulus % 2 ≠ 0
  exponentOdd : key.publicExponent % 2 ≠ 0
  exponentBounded : key.publicExponent ≤ maxPublicExponent
  firstFactor : 1 < key.firstFactor
  secondFactor : 1 < key.secondFactor
  product : key.firstFactor * key.secondFactor = key.modulus
  firstInverse : key.privateExponent * key.publicExponent % (key.firstFactor - 1) = 1
  secondInverse : key.privateExponent * key.publicExponent % (key.secondFactor - 1) = 1

theorem check_eq_ok_iff {key : PrivateKey} : key.check = .ok () ↔ key.IsChecked := by
  have hmax : maxPublicExponent < Text.Decimal.bound64 := by decide
  unfold check
  constructor
  · intro h
    dsimp only at h
    split_ifs at h with hlarge hmodulus hodd hbound hfactor hproduct hinverse
    obtain ⟨hbelow, hmodulusOdd⟩ := not_or.1 hmodulus
    obtain ⟨hfirst, hsecond⟩ := not_or.1 hfactor
    obtain ⟨hfirstInverse, hsecondInverse⟩ := not_or.1 hinverse
    exact ⟨by omega, hmodulusOdd, hodd, by omega, by omega, by omega, Decidable.of_not_not hproduct,
      Decidable.of_not_not hfirstInverse, Decidable.of_not_not hsecondInverse⟩
  · intro h
    have hbelow := h.exponentBelow
    have hbound := h.exponentBounded
    have hfirst := h.firstFactor
    have hsecond := h.secondFactor
    dsimp only
    rw [if_neg (by omega), if_neg (not_or.2 ⟨by omega, h.modulusOdd⟩), if_neg h.exponentOdd,
      if_neg (by omega), if_neg (by omega), if_neg (not_not_intro h.product),
      if_neg (not_or.2 ⟨not_not_intro h.firstInverse, not_not_intro h.secondInverse⟩)]

theorem ofParameters_eq_ok_iff {params : RsaParameters} {key : PrivateKey} :
    ofParameters params = .ok key ↔ ∃ p q,
      recoverFactors params.modulus params.publicExponent (Bytes.toNat params.privateExponent) =
        .ok (p, q) ∧
      key = ⟨params.modulus, params.publicExponent, Bytes.toNat params.privateExponent, p, q⟩ ∧
      key.IsChecked := by
  unfold ofParameters
  rw [Outcome.bind_eq_ok_iff]
  constructor
  · rintro ⟨⟨p, q⟩, hfactors, h⟩
    obtain ⟨⟨⟩, hcheck, hkey⟩ := Outcome.bind_eq_ok_iff.1 h
    cases hkey
    exact ⟨p, q, hfactors, rfl, check_eq_ok_iff.1 (Outcome.ofExcept_eq_ok_iff.1 hcheck)⟩
  · rintro ⟨p, q, hfactors, rfl, hchecked⟩
    refine ⟨(p, q), hfactors, Outcome.bind_eq_ok_iff.2 ⟨(), ?_, rfl⟩⟩
    exact Outcome.ofExcept_eq_ok_iff.2 (check_eq_ok_iff.2 hchecked)

theorem isChecked_of_ofParameters {params : RsaParameters} {key : PrivateKey}
    (h : ofParameters params = .ok key) : key.IsChecked := by
  obtain ⟨p, q, -, -, hchecked⟩ := ofParameters_eq_ok_iff.1 h
  exact hchecked

/-! ## Roots -/

theorem IsChecked.modulus_pos {key : PrivateKey} (h : key.IsChecked) : 0 < key.modulus := by
  have hbelow := h.exponentBelow
  omega

theorem root_lt {key : PrivateKey} (h : key.IsChecked) (x : Nat) : key.root x < key.modulus := by
  have hfirst := h.firstFactor
  have hsecond := h.secondFactor
  unfold root
  dsimp only
  split
  · rw [← h.product]
    exact Modular.combine_lt (by omega) (Modular.powMod_lt (by omega) _ _)
  · exact Modular.powMod_lt h.modulus_pos _ _

end Rsa.PrivateKey

end Credential.Key
