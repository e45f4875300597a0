import Credential.Proofs.Key.FactorRecovery
import Credential.Proofs.Key.FormatEquivalence
import Credential.Proofs.Key.RsaRoot
import Credential.Proofs.Key.StructureEncoding
import Mathlib.FieldTheory.Finite.Basic
import Mathlib.Tactic.NormNum.Prime

/-!
# RSA keys of two primes

`TwoPrimeKey` is an RSA key as key generation makes it: two distinct odd primes, and two exponents
that are inverse to each other modulo `lcm (p - 1) (q - 1)`. The file of such a key is loaded if and
only if the primes, which stand in the file but are not read, are recovered from the exponents
(`loads_iff_recoverable`). The loaded key then undoes the public operation.

For these exponents the number from which the factors are recovered is a multiple of
`(p - 1) (q - 1) = n - (p + q - 1)` (`multiple_eq`). With the cofactor `u` it is
`u n - u (p + q - 1)`, so the division by `n` shows the sum of the primes if and only if the second
part is not more than `n` (`sum_shown_iff`). The cofactor is at most the square of the public
exponent (`cofactor_le`), so primes that are large enough for the exponent are always recovered.
Public exponents up to 65536 are refused whatever the primes are.
-/

namespace Credential.Key.Rsa

/-- An RSA key of two distinct odd primes. -/
structure TwoPrimeKey where
  firstPrime : Nat
  secondPrime : Nat
  publicExponent : Nat
  privateExponent : Nat
  prime_first : firstPrime.Prime
  prime_second : secondPrime.Prime
  odd_first : firstPrime % 2 = 1
  odd_second : secondPrime % 2 = 1
  distinct : firstPrime ≠ secondPrime
  odd_publicExponent : publicExponent % 2 = 1
  three_le_publicExponent : 3 ≤ publicExponent
  publicExponent_lt : publicExponent < firstPrime * secondPrime
  publicExponent_le : publicExponent ≤ maxPublicExponent
  privateExponent_pos : 0 < privateExponent
  privateExponent_lt : privateExponent < Nat.lcm (firstPrime - 1) (secondPrime - 1)
  inverse : publicExponent * privateExponent ≡ 1 [MOD Nat.lcm (firstPrime - 1) (secondPrime - 1)]

namespace TwoPrimeKey

variable (key : TwoPrimeKey)

/-- The product of the primes. -/
def modulus : Nat := key.firstPrime * key.secondPrime

/-- The number of residues without a common divisor with the modulus. -/
def totient : Nat := (key.firstPrime - 1) * (key.secondPrime - 1)

/-- What the totient lacks to the modulus, the sum of the primes less one. -/
def gap : Nat := key.firstPrime + key.secondPrime - 1

/-- The number from which the factors are recovered. -/
def multiple : Nat := recoveryMultiple key.modulus key.publicExponent key.privateExponent

/-- How often the totient stands in the number from which the factors are recovered. -/
def cofactor : Nat := key.multiple / key.totient

/-- The keys whose primes are recovered from their exponents. -/
structure IsRecoverable (key : TwoPrimeKey) : Prop where
  largeExponent : 65536 < key.publicExponent
  sumShown : key.cofactor * key.gap ≤ key.modulus

/-- The RSAPrivateKey of the key, with `tail` after the exponents: the primes and what follows
them. -/
def file (tail : Bytes) : Bytes :=
  RsaParameters.encode key.modulus key.publicExponent key.privateExponent tail

/-- The content of the RSAPrivateKey. -/
def content (tail : Bytes) : Bytes :=
  RsaParameters.paddedContent ⟨0, 0⟩ ⟨key.modulus, 0⟩ ⟨key.publicExponent, 0⟩
    ⟨key.privateExponent, 0⟩ tail

/-! ## The modulus and its totient -/

theorem two_lt_firstPrime : 2 < key.firstPrime := by
  have htwo := key.prime_first.two_le
  have hodd := key.odd_first
  omega

theorem two_lt_secondPrime : 2 < key.secondPrime := by
  have htwo := key.prime_second.two_le
  have hodd := key.odd_second
  omega

theorem totient_pos : 0 < key.totient := by
  have hfirst := key.two_lt_firstPrime
  have hsecond := key.two_lt_secondPrime
  exact Nat.mul_pos (by omega) (by omega)

theorem gap_pos : 0 < key.gap := by
  have hfirst := key.two_lt_firstPrime
  unfold gap
  omega

theorem modulus_eq : key.modulus = key.totient + key.gap := by
  have hfirst := key.two_lt_firstPrime
  have hsecond := key.two_lt_secondPrime
  obtain ⟨a, ha⟩ : ∃ a, key.firstPrime = a + 1 := ⟨key.firstPrime - 1, by omega⟩
  obtain ⟨b, hb⟩ : ∃ b, key.secondPrime = b + 1 := ⟨key.secondPrime - 1, by omega⟩
  have hgap : a + 1 + (b + 1) - 1 = a + b + 1 := by omega
  unfold modulus totient gap
  rw [ha, hb, hgap, Nat.add_sub_cancel, Nat.add_sub_cancel]
  ring

theorem modulus_pos : 0 < key.modulus := by
  rw [key.modulus_eq]
  exact Nat.add_pos_left key.totient_pos _

theorem one_lt_product : 1 < key.privateExponent * key.publicExponent := by
  have hthree := key.three_le_publicExponent
  have hle := Nat.mul_le_mul key.privateExponent_pos hthree
  omega

/-- The exponents are inverse to each other modulo both primes less one. -/
theorem lcm_dvd : Nat.lcm (key.firstPrime - 1) (key.secondPrime - 1) ∣
    key.privateExponent * key.publicExponent - 1 := by
  have hproduct := key.one_lt_product
  rw [Nat.mul_comm] at hproduct ⊢
  exact (Nat.modEq_iff_dvd' (by omega)).1 key.inverse.symm

theorem pred_modulus_eq : key.modulus - 1 =
    key.totient + ((key.firstPrime - 1) + (key.secondPrime - 1)) := by
  have hfirst := key.two_lt_firstPrime
  have hsecond := key.two_lt_secondPrime
  have hmodulus := key.modulus_eq
  unfold gap at hmodulus
  omega

/-- The common divisor of the primes less one divides the modulus less one. -/
theorem gcd_dvd : Nat.gcd (key.firstPrime - 1) (key.secondPrime - 1) ∣ key.modulus - 1 := by
  rw [key.pred_modulus_eq]
  exact (Dvd.dvd.mul_right (Nat.gcd_dvd_left _ _) _).add
    ((Nat.gcd_dvd_left _ _).add (Nat.gcd_dvd_right _ _))

/-! ## The cofactor -/

/-- The totient is the product of the common divisor and the common multiple of the primes less one,
of which one divides each of the factors. -/
theorem totient_dvd_multiple : key.totient ∣ key.multiple := by
  unfold totient multiple recoveryMultiple
  rw [← Nat.gcd_mul_lcm, Nat.mul_comm]
  refine Nat.mul_dvd_mul key.lcm_dvd (Nat.dvd_gcd key.gcd_dvd ?_)
  exact (Nat.gcd_dvd_left _ _).trans ((Nat.dvd_lcm_left _ _).trans key.lcm_dvd)

theorem multiple_eq : key.multiple = key.cofactor * key.totient :=
  (Nat.div_mul_cancel key.totient_dvd_multiple).symm

theorem multiple_pos : 0 < key.multiple := by
  have hproduct := key.one_lt_product
  unfold multiple recoveryMultiple
  exact Nat.mul_pos (by omega) (Nat.gcd_pos_of_pos_right _ (by omega))

theorem cofactor_pos : 0 < key.cofactor := by
  have hpos := key.multiple_pos
  apply Nat.pos_of_ne_zero
  intro hzero
  rw [key.multiple_eq, hzero, Nat.zero_mul] at hpos
  exact Nat.lt_irrefl 0 hpos

/-- The common divisor of the modulus less one and the common multiple of the primes less one is the
common divisor of these. -/
theorem gcd_lcm_dvd :
    Nat.gcd (key.modulus - 1) (Nat.lcm (key.firstPrime - 1) (key.secondPrime - 1)) ∣
      Nat.gcd (key.firstPrime - 1) (key.secondPrime - 1) := by
  rw [key.pred_modulus_eq]
  unfold totient
  generalize key.firstPrime - 1 = a
  generalize key.secondPrime - 1 = b
  obtain ⟨a', b', hcoprime, ha, hb⟩ := Nat.exists_coprime a b
  have hlcm : Nat.lcm a b = a' * b' * Nat.gcd a b := by
    calc Nat.lcm a b
        = Nat.lcm (a' * Nat.gcd a b) (b' * Nat.gcd a b) := by rw [← ha, ← hb]
      _ = Nat.lcm a' b' * Nat.gcd a b := Nat.lcm_mul_right _ _ _
      _ = a' * b' * Nat.gcd a b := by rw [hcoprime.lcm_eq_mul]
  generalize Nat.gcd a b = g at *
  have hsum : a * b + (a + b) = (g * (a' * b') + (a' + b')) * g := by
    rw [ha, hb]
    ring
  -- a divisor of one part of the product that divides the sum of the parts divides the other part
  have hone : Nat.Coprime (g * (a' * b') + (a' + b')) (a' * b') := by
    rw [Nat.coprime_mul_right_add_left]
    exact Nat.Coprime.mul_right (by simpa using hcoprime.symm) (by simpa using hcoprime)
  rw [hlcm, hsum, Nat.gcd_mul_right, hone, Nat.one_mul]

/-- The cofactor is at most the square of the public exponent. -/
theorem cofactor_le : key.cofactor ≤ key.publicExponent ^ 2 := by
  obtain ⟨rounds, hrounds⟩ := key.lcm_dvd
  have hpos : 0 < rounds := by
    have hproduct := key.one_lt_product
    apply Nat.pos_of_ne_zero
    rintro rfl
    omega
  -- the private exponent is below the common multiple
  have hle : rounds ≤ key.publicExponent := by
    have hlcm : 0 < Nat.lcm (key.firstPrime - 1) (key.secondPrime - 1) :=
      Nat.lt_of_le_of_lt (Nat.zero_le _) key.privateExponent_lt
    have hbelow := Nat.mul_le_mul_right key.publicExponent (Nat.le_of_lt key.privateExponent_lt)
    exact Nat.le_of_mul_le_mul_left (by omega) hlcm
  have hgcd : Nat.gcd (key.modulus - 1) (key.privateExponent * key.publicExponent - 1) ≤
      Nat.gcd (key.firstPrime - 1) (key.secondPrime - 1) * rounds := by
    have hfirst := key.two_lt_firstPrime
    apply Nat.le_of_dvd (Nat.mul_pos (Nat.gcd_pos_of_pos_left _ (by omega)) hpos)
    rw [hrounds]
    exact (Nat.gcd_mul_right_dvd_mul_gcd _ _ _).trans
      (Nat.mul_dvd_mul key.gcd_lcm_dvd (Nat.gcd_dvd_right _ _))
  have htotients : key.cofactor * key.totient ≤ rounds ^ 2 * key.totient := by
    calc key.cofactor * key.totient
        = (key.privateExponent * key.publicExponent - 1) *
          Nat.gcd (key.modulus - 1) (key.privateExponent * key.publicExponent - 1) :=
          key.multiple_eq.symm
      _ ≤ (key.privateExponent * key.publicExponent - 1) *
          (Nat.gcd (key.firstPrime - 1) (key.secondPrime - 1) * rounds) :=
          Nat.mul_le_mul_left _ hgcd
      _ = rounds ^ 2 * (Nat.gcd (key.firstPrime - 1) (key.secondPrime - 1) *
          Nat.lcm (key.firstPrime - 1) (key.secondPrime - 1)) := by
          rw [hrounds]
          ring
      _ = rounds ^ 2 * key.totient := by rw [Nat.gcd_mul_lcm]; rfl
  exact (Nat.le_of_mul_le_mul_right htotients key.totient_pos).trans (Nat.pow_le_pow_left hle 2)

theorem isRecoverable_of_large (hexponent : 65536 < key.publicExponent)
    (hfirst : 2 * key.publicExponent ^ 2 ≤ key.firstPrime)
    (hsecond : 2 * key.publicExponent ^ 2 ≤ key.secondPrime) : key.IsRecoverable := by
  refine ⟨hexponent, ?_⟩
  have hgap : key.gap ≤ key.firstPrime + key.secondPrime := Nat.sub_le _ _
  have hcofactor := Nat.mul_le_mul key.cofactor_le hgap
  have hleft := Nat.mul_le_mul_right key.secondPrime hfirst
  have hright := Nat.mul_le_mul_left key.firstPrime hsecond
  unfold modulus
  refine hcofactor.trans ?_
  nlinarith

/-! ## Recovery -/

/-- The division by the modulus shows the sum of the primes exactly if it takes all the totients. -/
theorem sum_shown_iff : key.modulus - key.multiple % key.modulus =
    (key.multiple / key.modulus + 1) * key.gap ↔ key.cofactor * key.gap ≤ key.modulus := by
  have hmodulus := key.modulus_eq
  have hmultiple := key.multiple_eq
  have htotient := key.totient_pos
  have hgap := key.gap_pos
  have hcofactor := key.cofactor_pos
  have hdivision := Nat.div_add_mod key.multiple key.modulus
  have hrest := Nat.mod_lt key.multiple key.modulus_pos
  generalize key.multiple = a at *
  generalize key.modulus = n at *
  generalize key.totient = φ at *
  generalize key.gap = s at *
  generalize key.cofactor = u at *
  constructor
  · intro hshown
    have hcofactors : (a / n + 1) * φ = u * φ := by
      have hexpand : (a / n + 1) * n = (a / n + 1) * φ + (a / n + 1) * s := by rw [hmodulus]; ring
      have hone : (a / n + 1) * n = n * (a / n) + n := by ring
      omega
    rw [Nat.eq_of_mul_eq_mul_right htotient hcofactors] at hshown
    omega
  · intro hle
    obtain ⟨m, rfl⟩ : ∃ m, u = m + 1 := ⟨u - 1, by omega⟩
    have hpos : 0 < (m + 1) * s := Nat.mul_pos hcofactor hgap
    have hparts : n - (m + 1) * s + n * m = a := by
      have hexpand : (m + 1) * n = (m + 1) * φ + (m + 1) * s := by rw [hmodulus]; ring
      have hone : (m + 1) * n = n * m + n := by ring
      omega
    obtain ⟨hquotient, hremainder⟩ :=
      (Nat.div_mod_unique (by omega : 0 < n)).2 ⟨hparts, by omega⟩
    rw [hquotient, hremainder]
    omega

/-- Two numbers other than one whose product is the modulus are the primes. -/
theorem add_eq_of_mul_eq {x y : Nat} (h : x * y = key.modulus) (hx : x ≠ 1) (hy : y ≠ 1) :
    x + y = key.firstPrime + key.secondPrime := by
  wlog hdvd : key.firstPrime ∣ x generalizing x y
  · have hother : key.firstPrime ∣ y :=
      (key.prime_first.dvd_mul.1 ⟨key.secondPrime, h⟩).resolve_left hdvd
    rw [Nat.add_comm]
    exact this ((Nat.mul_comm y x).trans h) hy hx hother
  · obtain ⟨c, rfl⟩ := hdvd
    have hsecond : c * y = key.secondPrime := by
      apply Nat.eq_of_mul_eq_mul_left key.prime_first.pos
      rw [← Nat.mul_assoc]
      exact h
    have hlast : y = key.secondPrime :=
      ((Nat.dvd_prime key.prime_second).1 (Dvd.intro_left c hsecond)).resolve_left hy
    rw [hlast] at hsecond ⊢
    rw [(Nat.mul_eq_right key.prime_second.ne_zero).1 hsecond, Nat.mul_one]

/-- The modulus and one are not recovered as factors, as the number that they are recovered from is
positive. -/
theorem modulus_not_shown : key.modulus - key.multiple % key.modulus ≠
    (key.multiple / key.modulus + 1) * key.modulus := by
  have hmultiple := key.multiple_pos
  have hmodulus := key.modulus_pos
  have hdivision := Nat.div_add_mod key.multiple key.modulus
  intro hshown
  rw [Nat.add_mul, Nat.one_mul, Nat.mul_comm] at hshown
  omega

theorem isRecoveryExponent (h : 65536 < key.publicExponent) :
    IsRecoveryExponent key.publicExponent := by
  have hmax : maxPublicExponent < exponentBound := by decide
  exact ⟨h, Nat.lt_of_le_of_lt key.publicExponent_le hmax⟩

/-- The larger prime is recovered as the first factor. -/
theorem recoverFactors_of_isRecoverable (h : key.IsRecoverable) :
    recoverFactors key.modulus key.publicExponent key.privateExponent =
      .ok (max key.firstPrime key.secondPrime, min key.firstPrime key.secondPrime) := by
  refine (recoverFactors_eq_ok_iff (key.isRecoveryExponent h.largeExponent) key.privateExponent_pos
    key.modulus_pos).2 ⟨max_mul_min _ _, min_lt_max.2 key.distinct, ?_⟩
  rw [max_add_min]
  exact key.sum_shown_iff.2 h.sumShown

theorem isRecoverable_of_recoverFactors {x y : Nat}
    (h : recoverFactors key.modulus key.publicExponent key.privateExponent = .ok (x, y)) :
    key.IsRecoverable := by
  have hlarge : 65536 < key.publicExponent := by
    apply Nat.lt_of_not_le
    intro hsmall
    rw [recoverFactors_of_small hsmall] at h
    cases h
  obtain ⟨hproduct, hlt, hshown⟩ := (recoverFactors_eq_ok_iff (key.isRecoveryExponent hlarge)
    key.privateExponent_pos key.modulus_pos).1 h
  have hx : x ≠ 1 := by
    have hpos := key.modulus_pos
    rintro rfl
    omega
  have hy : y ≠ 1 := by
    rintro rfl
    rw [Nat.add_sub_cancel, ← Nat.mul_one x, hproduct] at hshown
    exact key.modulus_not_shown hshown
  rw [key.add_eq_of_mul_eq hproduct hx hy] at hshown
  exact ⟨hlarge, key.sum_shown_iff.1 hshown⟩

/-! ## Loading -/

/-- The numbers of the key as they are read from its file. -/
def parameters : RsaParameters where
  modulus := key.modulus
  publicExponent := key.publicExponent
  privateExponent := Bytes.bigEndian (byteLength key.privateExponent) key.privateExponent

/-- The key as it is loaded, with the larger prime as its first factor. -/
def loaded : PrivateKey where
  modulus := key.modulus
  publicExponent := key.publicExponent
  privateExponent := key.privateExponent
  firstFactor := max key.firstPrime key.secondPrime
  secondFactor := min key.firstPrime key.secondPrime

theorem decode_file {tail : Bytes} (hfits : Der.Fits (key.content tail)) :
    RsaParameters.decode (key.file tail) = .ok key.parameters := by
  unfold file
  rw [RsaParameters.encode_eq]
  exact RsaParameters.decode_padded rfl hfits

theorem toNat_parameters :
    Bytes.toNat key.parameters.privateExponent = key.privateExponent :=
  Bytes.toNat_bigEndian_of_lt (lt_pow_byteLength _)

/-- Modulo both primes less one, the exponents have the product one. -/
theorem mod_eq_one {factor : Nat}
    (hfactor : factor = key.firstPrime ∨ factor = key.secondPrime) :
    key.privateExponent * key.publicExponent % (factor - 1) = 1 := by
  have hfirst := key.two_lt_firstPrime
  have hsecond := key.two_lt_secondPrime
  have hdvd : factor - 1 ∣ Nat.lcm (key.firstPrime - 1) (key.secondPrime - 1) := by
    rcases hfactor with rfl | rfl
    · exact Nat.dvd_lcm_left _ _
    · exact Nat.dvd_lcm_right _ _
  have hmod := key.inverse.of_dvd hdvd
  rw [Nat.mul_comm, hmod, Nat.mod_eq_of_lt (by omega)]

theorem isPrimePair_loaded : key.loaded.IsPrimePair := by
  have hfirst := key.two_lt_firstPrime
  have hsecond := key.two_lt_secondPrime
  have hodd : key.modulus % 2 = 1 := by
    unfold modulus
    rw [Nat.mul_mod, key.odd_first, key.odd_second]
  have hmax := max_choice key.firstPrime key.secondPrime
  have hmin := min_choice key.firstPrime key.secondPrime
  refine ⟨⟨key.publicExponent_lt, ?_, ?_, key.publicExponent_le, ?_, ?_, max_mul_min _ _,
    key.mod_eq_one hmax, key.mod_eq_one hmin⟩, ?_, ?_, ?_⟩
  · exact (by omega : key.modulus % 2 ≠ 0)
  · have hexponent := key.odd_publicExponent
    exact (by omega : key.publicExponent % 2 ≠ 0)
  · exact lt_max_of_lt_left (by omega)
  · exact lt_min (by omega) (by omega)
  · exact max_rec' Nat.Prime key.prime_first key.prime_second
  · exact min_rec' Nat.Prime key.prime_first key.prime_second
  · exact (min_lt_max.2 key.distinct).ne'

theorem ofParameters_of_isRecoverable (h : key.IsRecoverable) :
    PrivateKey.ofParameters key.parameters = .ok key.loaded := by
  refine PrivateKey.ofParameters_eq_ok_iff.2
    ⟨key.loaded.firstFactor, key.loaded.secondFactor, ?_, ?_, key.isPrimePair_loaded.checked⟩
  · rw [key.toNat_parameters]
    exact key.recoverFactors_of_isRecoverable h
  · rw [key.toNat_parameters]
    rfl

/-- Where the primes are not recovered, the numbers are called invalid. -/
theorem ofParameters_of_not_isRecoverable (h : ¬ key.IsRecoverable) :
    PrivateKey.ofParameters key.parameters = .error (.rsa .invalidArguments) := by
  have hfault : recoverFactors key.modulus key.publicExponent key.privateExponent =
      .error (.rsa .invalidArguments) := by
    by_cases hlarge : 65536 < key.publicExponent
    · rcases recoverFactors_ok_or (key.isRecoveryExponent hlarge) key.privateExponent_pos
        key.modulus_pos with ⟨x, y, hok⟩ | hfault
      · exact absurd (key.isRecoverable_of_recoverFactors hok) h
      · exact hfault
    · exact recoverFactors_of_small (Nat.le_of_not_lt hlarge) _ _
  unfold PrivateKey.ofParameters
  rw [key.toNat_parameters]
  change recoverFactors key.modulus key.publicExponent key.privateExponent >>= _ = _
  rw [hfault]
  rfl

/-- The file of a key of two primes is loaded if the primes are recovered, and the loaded key undoes
the public operation on every number below the modulus. Otherwise its numbers are called invalid.
Primes of at least twice the square of a public exponent above 65536 are recovered. -/
theorem loads_iff_recoverable (key : TwoPrimeKey) (tail : Bytes)
    (hfits : Der.Fits (key.content tail)) (hmarker : ¬ Format.marker <:+: key.file tail)
    (password : Option Bytes) (options : Options) :
    (key.IsRecoverable → ∃ loaded : PrivateKey,
      Key.PrivateKey.ofFile (key.file tail) password options = .ok (.rsa loaded) ∧
      loaded.modulus = key.modulus ∧ loaded.publicExponent = key.publicExponent ∧
      ∀ m < key.modulus, ∀ input,
        Bytes.toNat input = m ^ key.publicExponent % key.modulus →
        ∃ output, loaded.apply input = .ok output ∧ Bytes.toNat output = m) ∧
    (¬ key.IsRecoverable →
      Key.PrivateKey.ofFile (key.file tail) password options =
        .error (.rsa .invalidArguments)) ∧
    (65536 < key.publicExponent → 2 * key.publicExponent ^ 2 ≤ key.firstPrime →
      2 * key.publicExponent ^ 2 ≤ key.secondPrime → key.IsRecoverable) := by
  have hfile := Key.PrivateKey.ofFile_of_rsaPrivateKey (key.decode_file hfits) hmarker password
    options
  refine ⟨?loads, ?refused, key.isRecoverable_of_large⟩
  case loads =>
    intro h
    rw [key.ofParameters_of_isRecoverable h] at hfile
    refine ⟨key.loaded, hfile, rfl, rfl, ?_⟩
    intro m hm input hinput
    obtain ⟨output, happly, -, hvalue⟩ :=
      PrivateKey.exists_apply_of_power key.isPrimePair_loaded hm hinput
    exact ⟨output, happly, hvalue⟩
  case refused =>
    intro h
    rw [key.ofParameters_of_not_isRecoverable h] at hfile
    exact hfile

/-- What follows the exponents in the file of a key: the primes, the private exponent modulo each of
them less one, and the inverse of the second prime modulo the first. -/
def primeNumbers : Bytes :=
  Der.encodeNat key.firstPrime ++ Der.encodeNat key.secondPrime
    ++ Der.encodeNat (key.privateExponent % (key.firstPrime - 1))
    ++ Der.encodeNat (key.privateExponent % (key.secondPrime - 1))
    ++ Der.encodeNat ((Modular.inverse? key.secondPrime key.firstPrime).getD 0)

/-- The octets that the public operation makes of a number. -/
def encrypt (m : Nat) : Bytes :=
  Bytes.bigEndian (byteLength key.modulus) (Modular.powMod m key.publicExponent key.modulus)

theorem toNat_encrypt (m : Nat) :
    Bytes.toNat (key.encrypt m) = m ^ key.publicExponent % key.modulus := by
  unfold encrypt
  rw [Modular.powMod_eq]
  exact Bytes.toNat_bigEndian_of_lt (Nat.lt_trans (Nat.mod_lt _ key.modulus_pos)
    (lt_pow_byteLength _))

/-- A number that is one more than a product of powers of two and three is prime if the powers of
some base show it. -/
theorem prime_of_two_three {p i j : Nat} (hp : p - 1 = 2 ^ i * 3 ^ j) (hlt : 1 < p) (base : Nat)
    (hone : Modular.powMod base (p - 1) p = 1)
    (htwo : Modular.powMod base ((p - 1) / 2) p ≠ 1)
    (hthree : Modular.powMod base ((p - 1) / 3) p ≠ 1) : p.Prime := by
  apply Modular.prime_of_powMod hlt base hone
  intro r hr hdvd
  rw [hp] at hdvd
  rcases hr.dvd_mul.1 hdvd with h | h
  · rw [(Nat.prime_dvd_prime_iff_eq hr Nat.prime_two).1 (hr.dvd_of_dvd_pow h)]
    exact htwo
  · rw [(Nat.prime_dvd_prime_iff_eq hr Nat.prime_three).1 (hr.dvd_of_dvd_pow h)]
    exact hthree

/-- The key of 67 bits of the primes `2 ^ 27 * 3 ^ 4 + 1` and `2 ^ 16 * 3 ^ 11 + 1`, with the usual
public exponent. -/
def usual : TwoPrimeKey where
  firstPrime := 10871635969
  secondPrime := 11609505793
  publicExponent := 65537
  privateExponent := 3088081420289
  prime_first := prime_of_two_three (by norm_num : _ = 2 ^ 27 * 3 ^ 4) (by decide) 11
    (by decide +kernel) (by decide +kernel) (by decide +kernel)
  prime_second := prime_of_two_three (by norm_num : _ = 2 ^ 16 * 3 ^ 11) (by decide) 11
    (by decide +kernel) (by decide +kernel) (by decide +kernel)
  odd_first := rfl
  odd_second := rfl
  distinct := by decide
  odd_publicExponent := rfl
  three_le_publicExponent := by decide
  publicExponent_lt := by decide
  publicExponent_le := by decide
  privateExponent_pos := by decide
  privateExponent_lt := by decide +kernel
  inverse := by unfold Nat.ModEq; decide +kernel

/-- The key of 12 bits of the primes 53 and 61, with the public exponent 17. -/
def small : TwoPrimeKey where
  firstPrime := 53
  secondPrime := 61
  publicExponent := 17
  privateExponent := 413
  prime_first := by norm_num
  prime_second := by norm_num
  odd_first := rfl
  odd_second := rfl
  distinct := by decide
  odd_publicExponent := rfl
  three_le_publicExponent := by decide
  publicExponent_lt := by decide
  publicExponent_le := by decide
  privateExponent_pos := by decide
  privateExponent_lt := by decide
  inverse := by decide

/-- The usual key is loaded and undoes the public operation on 2, and the small key is refused. -/
theorem loads_iff_recoverable_usual :
    (∃ loaded output,
      Key.PrivateKey.ofFile (usual.file usual.primeNumbers) none {} = .ok (.rsa loaded) ∧
      loaded.apply (usual.encrypt 2) = .ok output ∧ Bytes.toNat output = 2) ∧
    Key.PrivateKey.ofFile (small.file []) none {} = .error (.rsa .invalidArguments) := by
  obtain ⟨hloads, -, hlarge⟩ := loads_iff_recoverable usual usual.primeNumbers
    (by unfold Der.Fits; decide +kernel) (Format.detect_eq_der_iff.1 (by decide +kernel)) none {}
  obtain ⟨-, hrefused, -⟩ := loads_iff_recoverable small []
    (by unfold Der.Fits; decide +kernel) (Format.detect_eq_der_iff.1 (by decide +kernel)) none {}
  obtain ⟨loaded, hfile, -, -, hundo⟩ := hloads (hlarge (by decide) (by decide) (by decide))
  obtain ⟨output, happly, hvalue⟩ := hundo 2 (by decide) _ (usual.toNat_encrypt 2)
  exact ⟨⟨loaded, output, hfile, happly, hvalue⟩,
    hrefused fun h => absurd h.largeExponent (by decide)⟩

/-- The small key is a key of two primes and its file has no marker of PEM, but it is not loaded. -/
theorem small_not_loaded : ¬ Format.marker <:+: small.file small.primeNumbers ∧
    Key.PrivateKey.ofFile (small.file small.primeNumbers) none {} =
      .error (.rsa .invalidArguments) :=
  ⟨Format.detect_eq_der_iff.1 (by decide +kernel), by decide +kernel⟩

end TwoPrimeKey

end Credential.Key.Rsa
