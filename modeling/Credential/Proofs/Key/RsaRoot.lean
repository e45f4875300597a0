import Credential.Proofs.Key.Modular
import Credential.Proofs.Key.RsaKey
import Mathlib.FieldTheory.Finite.Basic

/-!
# Roots with prime factors

If the two factors of a checked key are distinct primes, its roots are powers:
`root x = x ^ d mod n` (`root_eq`). The public exponent leads back from every root
(`isRooted_of_lt`), so the private operation gives out a result for every number below the modulus
(`apply_eq`), and it undoes the public operation (`exists_apply_of_power`).

Both follow modulo each of the primes by Fermat's theorem, which the check of the exponents makes
applicable, and then modulo their product, as the primes have no common divisor.
-/

namespace Credential.Key.Rsa.PrivateKey

variable {key : PrivateKey}

/-- A checked key whose factors are two distinct primes. -/
structure IsPrimePair (key : PrivateKey) : Prop where
  checked : key.IsChecked
  firstPrime : key.firstFactor.Prime
  secondPrime : key.secondFactor.Prime
  distinct : key.firstFactor ≠ key.secondFactor

namespace IsPrimePair

theorem coprime (h : key.IsPrimePair) : Nat.Coprime key.firstFactor key.secondFactor :=
  (Nat.coprime_primes h.firstPrime h.secondPrime).2 h.distinct

/-- A congruence modulo the modulus is one modulo each of the primes. -/
theorem modEq_iff (h : key.IsPrimePair) {a b : Nat} : a ≡ b [MOD key.modulus] ↔
    a ≡ b [MOD key.firstFactor] ∧ a ≡ b [MOD key.secondFactor] := by
  rw [← h.checked.product]
  exact (Nat.modEq_and_modEq_iff_modEq_mul h.coprime).symm

end IsPrimePair

/-! ## Exponents modulo a prime -/

section Exponents

variable {p d e : Nat}

/-- The exponent that is used modulo one of the primes is positive. -/
theorem mod_pos_of_inverse (hinverse : d * e % (p - 1) = 1) : 0 < d % (p - 1) := by
  apply Nat.pos_of_ne_zero
  intro hzero
  rw [Nat.mul_mod, hzero, Nat.zero_mul, Nat.zero_mod] at hinverse
  cases hinverse

/-- Modulo one of the primes, the exponent can be taken modulo the prime less one. -/
theorem pow_mod_modEq (hp : p.Prime) (hinverse : d * e % (p - 1) = 1) (x : Nat) :
    x ^ (d % (p - 1)) ≡ x ^ d [MOD p] := by
  have hpos := mod_pos_of_inverse hinverse
  exact Modular.pow_modEq_of_exponents hp hpos (Nat.lt_of_lt_of_le hpos (Nat.mod_le d (p - 1)))
    (Nat.mod_modEq d (p - 1)) x

/-- Modulo one of the primes, the two exponents cancel each other. -/
theorem pow_mul_modEq (hp : p.Prime) (hinverse : d * e % (p - 1) = 1) (x : Nat) :
    x ^ (d * e) ≡ x [MOD p] := by
  have hpos : 0 < d * e := by
    apply Nat.pos_of_ne_zero
    intro hzero
    rw [hzero, Nat.zero_mod] at hinverse
    cases hinverse
  have hone : d * e ≡ 1 [MOD p - 1] := by
    have hmod := Nat.mod_modEq (d * e) (p - 1)
    rw [hinverse] at hmod
    exact hmod.symm
  have h := Modular.pow_modEq_of_exponents hp hpos Nat.one_pos hone x
  rwa [pow_one] at h

end Exponents

/-! ## Roots -/

/-- The root is the power with the private exponent. -/
theorem root_modEq (h : key.IsPrimePair) (x : Nat) :
    key.root x ≡ x ^ key.privateExponent [MOD key.modulus] := by
  obtain ⟨i, hi, hinverse⟩ := Modular.exists_inverse? h.firstPrime.pos h.coprime.symm
  have hroot : key.root x = Modular.combine key.firstFactor key.secondFactor i
      (x ^ (key.privateExponent % (key.firstFactor - 1)) % key.firstFactor)
      (x ^ (key.privateExponent % (key.secondFactor - 1)) % key.secondFactor) := by
    unfold root
    dsimp only
    rw [hi]
    dsimp only
    rw [Modular.powMod_eq, Modular.powMod_eq]
  rw [h.modEq_iff, hroot]
  constructor
  · exact (Modular.combine_modEq_left h.firstPrime.pos hinverse _ _).trans
      ((Nat.mod_modEq _ _).trans (pow_mod_modEq h.firstPrime h.checked.firstInverse x))
  · exact (Modular.combine_modEq_right _ i _ _).trans
      ((Nat.mod_modEq _ _).trans (pow_mod_modEq h.secondPrime h.checked.secondInverse x))

theorem root_eq (h : key.IsPrimePair) (x : Nat) :
    key.root x = x ^ key.privateExponent % key.modulus :=
  (Nat.mod_eq_of_lt (root_lt h.checked x)).symm.trans (root_modEq h x)

/-- Taking a root and the power with the public exponent gives the number again, in either order. -/
theorem pow_pow_modEq (h : key.IsPrimePair) (x : Nat) :
    x ^ (key.privateExponent * key.publicExponent) ≡ x [MOD key.modulus] :=
  h.modEq_iff.2 ⟨pow_mul_modEq h.firstPrime h.checked.firstInverse x,
    pow_mul_modEq h.secondPrime h.checked.secondInverse x⟩

/-- The public exponent leads back from the root of every number. -/
theorem isRooted_of_lt (h : key.IsPrimePair) {x : Nat} (hx : x < key.modulus) :
    key.isRooted x = true := by
  have hback : key.root x ^ key.publicExponent ≡ x [MOD key.modulus] := by
    calc key.root x ^ key.publicExponent
        ≡ (x ^ key.privateExponent) ^ key.publicExponent [MOD key.modulus] :=
          (root_modEq h x).pow key.publicExponent
      _ = x ^ (key.privateExponent * key.publicExponent) := (pow_mul x _ _).symm
      _ ≡ x [MOD key.modulus] := pow_pow_modEq h x
  unfold isRooted
  rw [Modular.powMod_eq, beq_iff_eq, hback, Nat.mod_eq_of_lt hx]

/-- The root of a power with the public exponent is the number that was raised. -/
theorem root_power (h : key.IsPrimePair) {m : Nat} (hm : m < key.modulus) :
    key.root (m ^ key.publicExponent % key.modulus) = m := by
  have hback : key.root (m ^ key.publicExponent % key.modulus) ≡ m [MOD key.modulus] := by
    calc key.root (m ^ key.publicExponent % key.modulus)
        ≡ (m ^ key.publicExponent % key.modulus) ^ key.privateExponent [MOD key.modulus] :=
          root_modEq h _
      _ ≡ (m ^ key.publicExponent) ^ key.privateExponent [MOD key.modulus] :=
          (Nat.mod_modEq _ _).pow _
      _ = m ^ (key.privateExponent * key.publicExponent) := by rw [← pow_mul, Nat.mul_comm]
      _ ≡ m [MOD key.modulus] := pow_pow_modEq h m
  exact hback.eq_of_lt_of_lt (root_lt h.checked _) hm

/-! ## The private operation -/

theorem apply_eq (h : key.IsPrimePair) {input : Bytes}
    (hinput : Bytes.toNat input < key.modulus) :
    key.apply input = .ok (Bytes.bigEndian key.size (key.root (Bytes.toNat input))) := by
  have hblind : key.blind (Bytes.toNat input) < key.modulus :=
    Nat.mod_lt _ h.checked.modulus_pos
  unfold apply
  dsimp only
  rw [if_neg (Nat.not_le_of_lt hinput),
    if_pos ⟨isRooted_of_lt h hinput, isRooted_of_lt h hblind⟩]

/-- The private operation undoes the public one. -/
theorem exists_apply_of_power (h : key.IsPrimePair) {m : Nat} (hm : m < key.modulus)
    {input : Bytes} (hinput : Bytes.toNat input = m ^ key.publicExponent % key.modulus) :
    ∃ output, key.apply input = .ok output ∧ output.length = key.size ∧
      Bytes.toNat output = m := by
  have hlt : Bytes.toNat input < key.modulus := by
    rw [hinput]
    exact Nat.mod_lt _ h.checked.modulus_pos
  refine ⟨_, apply_eq h hlt, Bytes.length_bigEndian _ _, ?_⟩
  rw [hinput, root_power h hm]
  apply Bytes.toNat_bigEndian_of_lt
  exact Nat.lt_trans hm (lt_pow_byteLength key.modulus)

end Credential.Key.Rsa.PrivateKey
