import Credential.Key.Modular
import Mathlib.FieldTheory.Finite.Basic
import Mathlib.NumberTheory.LucasPrimality

/-!
# Powers, inverses and residues

The modular arithmetic of the keys computes what its names say: `powMod` a power modulo a number
(`powMod_eq`), `inverse?` an inverse of every number without a common divisor (`exists_inverse?`),
and `combine` a number with two given residues (`combine_modEq_left`, `combine_modEq_right`).

Euclid's algorithm carries the congruences `a = u x` and `b = v x` along (`euclid_modEq`). They hold
at its beginning, a division with remainder keeps them (`remainder_modEq`), and at the end they say
what the inverse is. Powers modulo a prime depend on their exponents modulo the prime less one only
(`pow_modEq_of_exponents`), also those of the multiples of the prime.
-/

namespace Credential.Key.Modular

/-! ## Powers -/

/-- Repeated squaring takes the power. -/
theorem powMod_eq (base exponent modulus : Nat) :
    powMod base exponent modulus = base ^ exponent % modulus := by
  induction exponent using Nat.strongRecOn generalizing base with
  | ind exponent ih =>
      unfold powMod
      by_cases hzero : exponent = 0
      · rw [dif_pos hzero, hzero, pow_zero]
      rw [dif_neg hzero, ih (exponent / 2) (by omega), ← Nat.pow_mod, ← pow_two, ← pow_mul]
      dsimp only
      split
      next hodd =>
        have hsplit : exponent = 2 * (exponent / 2) + 1 := by omega
        rw [Nat.mod_mul_mod, ← pow_succ, ← hsplit]
      next heven =>
        have hsplit : exponent = 2 * (exponent / 2) := by omega
        rw [← hsplit]

/-- Powers modulo a prime with positive exponents that are equal modulo the prime less one. -/
theorem pow_modEq_of_exponents {p j k : Nat} (hp : p.Prime) (hj : 0 < j) (hk : 0 < k)
    (h : j ≡ k [MOD p - 1]) (x : Nat) : x ^ j ≡ x ^ k [MOD p] := by
  wlog hle : j ≤ k generalizing j k
  · exact (this hk hj h.symm (Nat.le_of_not_le hle)).symm
  by_cases hdvd : p ∣ x
  · -- multiples of the prime have no inverse, but all their powers are zero
    have hzero {i : Nat} (hi : 0 < i) : x ^ i ≡ 0 [MOD p] :=
      Nat.modEq_zero_iff_dvd.2 (dvd_pow hdvd (Nat.ne_of_gt hi))
    exact (hzero hj).trans (hzero hk).symm
  · obtain ⟨rounds, hrounds⟩ := (Nat.modEq_iff_dvd' hle).1 h
    have hfermat : x ^ (p - 1) ≡ 1 [MOD p] := by
      rw [← Nat.totient_prime hp]
      exact Nat.ModEq.pow_totient ((Nat.Prime.coprime_iff_not_dvd hp).2 hdvd).symm
    calc x ^ j = x ^ j * 1 ^ rounds := by rw [one_pow, mul_one]
      _ ≡ x ^ j * (x ^ (p - 1)) ^ rounds [MOD p] := (hfermat.symm.pow rounds).mul_left _
      _ = x ^ k := by rw [← pow_mul, ← hrounds, ← pow_add, Nat.add_sub_cancel' hle]

/-- A number is prime if some base has an order of one less, which its powers show. -/
theorem prime_of_powMod {p : Nat} (hp : 1 < p) (base : Nat) (hone : powMod base (p - 1) p = 1)
    (hfactors : ∀ r, r.Prime → r ∣ p - 1 → powMod base ((p - 1) / r) p ≠ 1) : p.Prime := by
  have hpower (k : Nat) : (base : ZMod p) ^ k = 1 ↔ powMod base k p = 1 := by
    rw [powMod_eq, ← Nat.cast_pow, ← Nat.cast_one, ZMod.natCast_eq_natCast_iff, Nat.ModEq,
      Nat.mod_eq_of_lt hp]
  exact lucas_primality p base ((hpower _).2 hone)
    fun r hr hdvd hroot => hfactors r hr hdvd ((hpower _).1 hroot)

/-! ## Inverses -/

variable {m x : Nat}

/-- What Euclid's algorithm takes from a number, as a congruence. -/
theorem remainder_modEq (hm : 0 < m) {a b u v : Nat} (ha : a ≡ u * x [MOD m])
    (hb : b ≡ v * x [MOD m]) : a % b ≡ (u + (m - a / b * v % m)) % m * x [MOD m] := by
  have hback : u + (m - a / b * v % m) + a / b * v ≡ u [MOD m] := by
    have hle : a / b * v % m ≤ m := Nat.le_of_lt (Nat.mod_lt _ hm)
    calc u + (m - a / b * v % m) + a / b * v
        ≡ u + (m - a / b * v % m) + a / b * v % m [MOD m] :=
          (Nat.mod_modEq _ m).symm.add_left _
      _ = u + m := by omega
      _ ≡ u [MOD m] := Nat.add_modEq_right
  apply Nat.ModEq.add_right_cancel' (a / b * v * x)
  calc a % b + a / b * v * x
      = a % b + a / b * (v * x) := by rw [Nat.mul_assoc]
    _ ≡ a % b + a / b * b [MOD m] := (hb.symm.mul_left _).add_left _
    _ = a := by rw [Nat.mul_comm, Nat.mod_add_div]
    _ ≡ u * x [MOD m] := ha
    _ ≡ (u + (m - a / b * v % m) + a / b * v) * x [MOD m] := hback.symm.mul_right x
    _ = (u + (m - a / b * v % m)) * x + a / b * v * x := Nat.add_mul _ _ _
    _ ≡ (u + (m - a / b * v % m)) % m * x + a / b * v * x [MOD m] :=
      ((Nat.mod_modEq _ m).symm.mul_right x).add_right _

/-- Euclid's algorithm finds the greatest common divisor and how often `x` stands in it. -/
theorem euclid_modEq (hm : 0 < m) {a b u v : Nat} (ha : a ≡ u * x [MOD m])
    (hb : b ≡ v * x [MOD m]) :
    (euclid m a b u v).1 = Nat.gcd a b ∧
      Nat.gcd a b ≡ (euclid m a b u v).2 * x [MOD m] := by
  induction b using Nat.strongRecOn generalizing a u v with
  | ind b ih =>
      unfold euclid
      by_cases hzero : b = 0
      · rw [dif_pos hzero, hzero, Nat.gcd_zero_right]
        exact ⟨rfl, ha⟩
      · rw [dif_neg hzero, Nat.gcd_comm, Nat.gcd_rec, Nat.gcd_comm]
        exact ih (a % b) (Nat.mod_lt a (Nat.pos_of_ne_zero hzero)) hb (remainder_modEq hm ha hb)

/-- Numbers without a common divisor have an inverse. -/
theorem exists_inverse? (hm : 0 < m) (h : Nat.Coprime x m) :
    ∃ i, inverse? x m = some i ∧ i * x ≡ 1 [MOD m] := by
  have hfirst : x % m ≡ 1 * x [MOD m] := by
    rw [Nat.one_mul]
    exact Nat.mod_modEq x m
  have hsecond : m ≡ 0 * x [MOD m] := by
    rw [Nat.zero_mul]
    exact (Nat.modEq_zero_iff_dvd.2 dvd_rfl)
  obtain ⟨hdivisor, hmodEq⟩ := euclid_modEq hm hfirst hsecond
  have hone : Nat.gcd (x % m) m = 1 := by
    rw [← Nat.gcd_rec, Nat.gcd_comm]
    exact h
  rw [hone] at hdivisor hmodEq
  refine ⟨(euclid m (x % m) m 1 0).2 % m, ?_, ?_⟩
  · unfold inverse?
    dsimp only
    rw [hdivisor, if_pos rfl]
  · exact ((Nat.mod_modEq _ m).mul_right x).trans hmodEq.symm

/-! ## Two residues -/

variable {p q i : Nat}

theorem combine_modEq_right (p i a b : Nat) : combine p q i a b ≡ b [MOD q] := by
  unfold combine
  exact Nat.modEq_iff_dvd.2 ⟨-((a + (p - b % p)) * i % p : Nat), by push_cast; ring⟩

theorem combine_modEq_left (hp : 0 < p) (hi : i * q ≡ 1 [MOD p]) (a b : Nat) :
    combine p q i a b ≡ a [MOD p] := by
  have hle : b % p ≤ p := Nat.le_of_lt (Nat.mod_lt b hp)
  have hdigit : (a + (p - b % p)) * i % p * q ≡ a + (p - b % p) [MOD p] := by
    calc (a + (p - b % p)) * i % p * q
        ≡ (a + (p - b % p)) * i * q [MOD p] := (Nat.mod_modEq _ p).mul_right q
      _ = (a + (p - b % p)) * (i * q) := Nat.mul_assoc _ _ _
      _ ≡ (a + (p - b % p)) * 1 [MOD p] := hi.mul_left _
      _ = a + (p - b % p) := Nat.mul_one _
  unfold combine
  calc b + q * ((a + (p - b % p)) * i % p)
      = b + (a + (p - b % p)) * i % p * q := by rw [Nat.mul_comm q]
    _ ≡ b % p + (a + (p - b % p)) [MOD p] := (Nat.mod_modEq b p).symm.add hdigit
    _ = a + p := by omega
    _ ≡ a [MOD p] := Nat.add_modEq_right

end Credential.Key.Modular
