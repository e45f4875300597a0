import Credential.Key.PrivateKey
import Credential.Proofs.Key.DekInfo
import Credential.Proofs.Key.DerivedLength
import Credential.Proofs.Key.RsaKey

/-!
# Key files that abort

Natural numbers make every step total: a difference below zero is zero and a division by zero gives
zero. `Checked` has the arithmetic of keys once more with operations that abort where they have no
result. It is the arithmetic of keys: for the recovery of factors and the check of a key without any
condition (`Checked.recoverFactors_eq`, `Checked.check_eq`), for the private operation on every key
that passed its check (`Checked.apply_eq`).

So the only step that can abort the loading of a key file is the one that the recovery of factors is
told to abort at, and `key_file_aborts_iff` says for which files it does: those with an RSA key
whose public exponent is in the range for which factors are recovered and whose modulus or private
exponent is zero. No file aborts in the private operation, and a DSA key has no public value if its
prime is zero.
-/

namespace Credential.Key

/-! ## Checked arithmetic -/

namespace Checked

/-- A difference that is not below zero. -/
def sub (a b : Nat) : Outcome Error Nat := if b ≤ a then .ok (a - b) else .aborted

/-- A quotient by a positive number. -/
def div (a b : Nat) : Outcome Error Nat := if 0 < b then .ok (a / b) else .aborted

/-- A remainder by a positive number. -/
def mod (a b : Nat) : Outcome Error Nat := if 0 < b then .ok (a % b) else .aborted

/-- A power modulo a positive number. -/
def powMod (base exponent modulus : Nat) : Outcome Error Nat :=
  if 0 < modulus then .ok (Modular.powMod base exponent modulus) else .aborted

/-- An inverse modulo a positive number. -/
def inverse? (x modulus : Nat) : Outcome Error (Option Nat) :=
  if 0 < modulus then .ok (Modular.inverse? x modulus) else .aborted

section Defined

variable {a b : Nat}

theorem sub_of_le (h : b ≤ a) : sub a b = .ok (a - b) := if_pos h

theorem sub_of_lt (h : a < b) : sub a b = .aborted := if_neg (Nat.not_le_of_lt h)

theorem div_of_pos (h : 0 < b) : div a b = .ok (a / b) := if_pos h

theorem mod_of_pos (h : 0 < b) : mod a b = .ok (a % b) := if_pos h

theorem powMod_of_pos {base exponent modulus : Nat} (h : 0 < modulus) :
    powMod base exponent modulus = .ok (Modular.powMod base exponent modulus) := if_pos h

theorem inverse?_of_pos {x modulus : Nat} (h : 0 < modulus) :
    inverse? x modulus = .ok (Modular.inverse? x modulus) := if_pos h

end Defined

/-! ## Building RSA keys -/

/-- `Rsa.recoverFactors` with checked steps. It has no guard for zero. -/
def recoverFactors (n e d : Nat) : Outcome Error (Nat × Nat) :=
  if e ≤ 65536 ∨ e ≥ Rsa.exponentBound then .error (.rsa .invalidArguments)
  else do
    let k ← sub (d * e) 1
    let predecessor ← sub n 1
    let a := k * Nat.gcd predecessor k
    let m ← div a n
    let r ← mod a n
    let rest ← sub n r
    let remainder ← mod rest (m + 1)
    if remainder ≠ 0 then .error (.rsa .invalidArguments)
    else do
      let quotient ← div rest (m + 1)
      let sum := quotient + 1
      if sum * sum ≤ 4 * n then .error (.rsa .invalidArguments)
      else do
        let square ← sub (sum * sum) (4 * n)
        let difference := Nat.sqrt square
        if difference * difference ≠ square then .error (.rsa .invalidArguments)
        else do
          let twice ← sub sum difference
          .ok ((sum + difference) / 2, twice / 2)

/-- The guard for zero stands for the two differences that would be below zero, and no other step is
undefined. -/
theorem recoverFactors_eq (n e d : Nat) : recoverFactors n e d = Rsa.recoverFactors n e d := by
  unfold recoverFactors Rsa.recoverFactors
  by_cases hrange : e ≤ 65536 ∨ e ≥ Rsa.exponentBound
  · rw [if_pos hrange, if_pos hrange]
  rw [if_neg hrange, if_neg hrange]
  rcases Nat.eq_zero_or_pos (d * e) with hproduct | hproduct
  · rw [sub_of_lt (by omega), if_pos (Or.inl hproduct)]
    rfl
  rw [sub_of_le hproduct, Outcome.ok_bind]
  rcases Nat.eq_zero_or_pos n with hn | hn
  · rw [sub_of_lt (by omega), if_pos (Or.inr hn)]
    rfl
  rw [sub_of_le hn, if_neg (by omega)]
  dsimp only [Outcome.ok_bind]
  generalize (d * e - 1) * Nat.gcd (n - 1) (d * e - 1) = a
  have hr : a % n < n := Nat.mod_lt _ hn
  rw [div_of_pos hn, mod_of_pos hn]
  dsimp only [Outcome.ok_bind]
  rw [sub_of_le (Nat.le_of_lt hr)]
  dsimp only [Outcome.ok_bind]
  rw [mod_of_pos (Nat.succ_pos _), div_of_pos (Nat.succ_pos _)]
  dsimp only [Outcome.ok_bind]
  split
  · rfl
  generalize (n - a % n) / (a / n + 1) + 1 = sum
  split
  · rfl
  next hsquare =>
  rw [sub_of_le (by omega)]
  dsimp only [Outcome.ok_bind]
  split
  · rfl
  next hroot =>
  -- the root of a number below the square of the sum is at most the sum
  have hle : Nat.sqrt (sum * sum - 4 * n) ≤ sum :=
    Nat.mul_self_le_mul_self_iff.1 (by omega)
  rw [sub_of_le hle]
  rfl

/-- `Rsa.PrivateKey.check` with checked steps. -/
def check (key : Rsa.PrivateKey) : Outcome Error Unit :=
  let n := key.modulus
  let e := key.publicExponent
  let p := key.firstFactor
  let q := key.secondFactor
  if e ≥ Text.Decimal.bound64 then .error (.rsa .publicExponentTooLarge)
  else if e ≥ n ∨ n % 2 = 0 then .error (.rsa .invalidModulus)
  else if e % 2 = 0 then .error (.rsa .invalidExponent)
  else if e > Rsa.maxPublicExponent then .error (.rsa .publicExponentTooLarge)
  else if p ≤ 1 ∨ q ≤ 1 then .error (.rsa .invalidPrime)
  else if p * q ≠ n then .error (.rsa .invalidModulus)
  else do
    let firstModulus ← sub p 1
    let first ← mod (key.privateExponent * e) firstModulus
    let secondModulus ← sub q 1
    let second ← mod (key.privateExponent * e) secondModulus
    if first ≠ 1 ∨ second ≠ 1 then .error (.rsa .invalidExponent) else .ok ()

theorem check_eq (key : Rsa.PrivateKey) : check key = .ofExcept key.check := by
  unfold check Rsa.PrivateKey.check
  dsimp only
  split_ifs with hlarge hmodulus hodd hbound hfactor hproduct hinverse
  all_goals try rfl
  all_goals
    rw [sub_of_le (by omega), sub_of_le (by omega)]
    dsimp only [Outcome.ok_bind]
    rw [mod_of_pos (by omega), mod_of_pos (by omega)]
    dsimp only [Outcome.ok_bind]
  · exact if_pos hinverse
  · exact if_neg hinverse

/-- `Rsa.PrivateKey.ofParameters` with checked steps. -/
def ofParameters (params : RsaParameters) : Outcome Error Rsa.PrivateKey := do
  let d := Bytes.toNat params.privateExponent
  let (p, q) ← recoverFactors params.modulus params.publicExponent d
  let key : Rsa.PrivateKey := ⟨params.modulus, params.publicExponent, d, p, q⟩
  check key
  return key

theorem ofParameters_eq (params : RsaParameters) :
    ofParameters params = Rsa.PrivateKey.ofParameters params := by
  unfold ofParameters Rsa.PrivateKey.ofParameters
  simp only [recoverFactors_eq, check_eq]
  rfl

/-! ## The private operation -/

/-- `Rsa.PrivateKey.root` with checked steps, those of `Modular.combine` written out. -/
def root (key : Rsa.PrivateKey) (x : Nat) : Outcome Error Nat := do
  let p := key.firstFactor
  let q := key.secondFactor
  match ← inverse? q p with
  | some i => do
    let firstModulus ← sub p 1
    let firstExponent ← mod key.privateExponent firstModulus
    let a ← powMod x firstExponent p
    let secondModulus ← sub q 1
    let secondExponent ← mod key.privateExponent secondModulus
    let b ← powMod x secondExponent q
    let residue ← mod b p
    let opposite ← sub p residue
    let digit ← mod ((a + opposite) * i) p
    .ok (b + q * digit)
  | none => powMod x key.privateExponent key.modulus

/-- `Rsa.PrivateKey.isRooted` with checked steps. -/
def isRooted (key : Rsa.PrivateKey) (x : Nat) : Outcome Error Bool := do
  let found ← root key x
  let back ← powMod found key.publicExponent key.modulus
  .ok (back == x)

/-- `Rsa.PrivateKey.blind` with checked steps. -/
def blind (key : Rsa.PrivateKey) (x : Nat) : Outcome Error Nat := do
  let factor ← mod (Bytes.toNat (Digest.sha1 (Bytes.bigEndian key.size key.modulus))) key.modulus
  let power ← powMod factor key.publicExponent key.modulus
  mod (x * power) key.modulus

/-- `Rsa.PrivateKey.apply` with checked steps. The result is padded to the size of the modulus. -/
def apply (key : Rsa.PrivateKey) (input : Bytes) : Outcome Error Bytes := do
  let x := Bytes.toNat input
  if x ≥ key.modulus then .error .inputOutOfRange
  else do
    let rooted ← isRooted key x
    let blinded ← blind key x
    let blindedRooted ← isRooted key blinded
    if rooted ∧ blindedRooted then do
      let result ← root key x
      let padding ← sub key.size (byteLength result)
      .ok (List.replicate padding 0 ++ Bytes.bigEndian (byteLength result) result)
    else .error (.rsa .inconsistentResult)

section Operation

variable {key : Rsa.PrivateKey}

theorem root_eq (h : key.IsChecked) (x : Nat) : root key x = .ok (key.root x) := by
  have hfirst := h.firstFactor
  have hsecond := h.secondFactor
  have hpos : 0 < key.firstFactor := by omega
  unfold root Rsa.PrivateKey.root
  dsimp only
  rw [inverse?_of_pos hpos, Outcome.ok_bind]
  cases Modular.inverse? key.secondFactor key.firstFactor with
  | none => exact powMod_of_pos h.modulus_pos
  | some i =>
      dsimp only [Modular.combine]
      rw [sub_of_le (Nat.le_of_lt hfirst), Outcome.ok_bind, mod_of_pos (Nat.sub_pos_of_lt hfirst),
        Outcome.ok_bind, powMod_of_pos hpos, Outcome.ok_bind, sub_of_le (Nat.le_of_lt hsecond),
        Outcome.ok_bind, mod_of_pos (Nat.sub_pos_of_lt hsecond), Outcome.ok_bind,
        powMod_of_pos (Nat.lt_of_succ_lt hsecond), Outcome.ok_bind, mod_of_pos hpos,
        Outcome.ok_bind, sub_of_le (Nat.le_of_lt (Nat.mod_lt _ hpos)), Outcome.ok_bind,
        mod_of_pos hpos, Outcome.ok_bind]

theorem isRooted_eq (h : key.IsChecked) (x : Nat) : isRooted key x = .ok (key.isRooted x) := by
  unfold isRooted Rsa.PrivateKey.isRooted
  rw [root_eq h, Outcome.ok_bind, powMod_of_pos h.modulus_pos, Outcome.ok_bind]

theorem blind_eq (h : key.IsChecked) (x : Nat) : blind key x = .ok (key.blind x) := by
  unfold blind Rsa.PrivateKey.blind Rsa.PrivateKey.blindingFactor
  rw [mod_of_pos h.modulus_pos, Outcome.ok_bind, powMod_of_pos h.modulus_pos, Outcome.ok_bind,
    mod_of_pos h.modulus_pos]

theorem apply_eq (h : key.IsChecked) (input : Bytes) :
    apply key input = .ofExcept (key.apply input) := by
  have hfits : byteLength (key.root (Bytes.toNat input)) ≤ key.size :=
    byteLength_le_iff.2 (Nat.lt_trans (Rsa.PrivateKey.root_lt h _)
      (lt_pow_byteLength key.modulus))
  unfold apply Rsa.PrivateKey.apply
  dsimp only
  split
  · rfl
  rw [isRooted_eq h, Outcome.ok_bind, blind_eq h, Outcome.ok_bind, isRooted_eq h, Outcome.ok_bind]
  split
  · rw [root_eq h, Outcome.ok_bind, sub_of_le hfits, Outcome.ok_bind,
      Bytes.bigEndian_eq_padded hfits]
    rfl
  · rfl

end Operation

end Checked

/-! ## Key files -/

/-- Numbers at which the recovery of factors has no defined step: the public exponent is in the
range for which factors are recovered, and the modulus or the private exponent is zero. -/
def RsaParameters.IsDegenerate (params : RsaParameters) : Prop :=
  65536 < params.publicExponent ∧ params.publicExponent < Rsa.exponentBound ∧
    (Bytes.toNat params.privateExponent = 0 ∨ params.modulus = 0)

namespace Rsa

theorem recoverFactors_eq_aborted_iff {n e d : Nat} :
    recoverFactors n e d = .aborted ↔ 65536 < e ∧ e < exponentBound ∧ (d = 0 ∨ n = 0) := by
  unfold recoverFactors
  by_cases hrange : e ≤ 65536 ∨ e ≥ exponentBound
  · rw [if_pos hrange]
    constructor
    · intro h
      cases h
    · rintro ⟨hlarge, hsmall, -⟩
      omega
  · rw [if_neg hrange]
    obtain ⟨hlarge, hsmall⟩ := not_or.1 hrange
    by_cases hzero : d * e = 0 ∨ n = 0
    · rw [if_pos hzero]
      refine iff_of_true rfl ⟨by omega, by omega, hzero.imp_left fun hproduct => ?_⟩
      exact (Nat.mul_eq_zero.1 hproduct).resolve_right (by omega)
    · rw [if_neg hzero]
      constructor
      · intro h
        dsimp only at h
        split_ifs at h
      · rintro ⟨-, -, hd | hn⟩
        · exact absurd (Or.inl (by rw [hd, Nat.zero_mul])) hzero
        · exact absurd (Or.inr hn) hzero

theorem ofParameters_eq_aborted_iff {params : RsaParameters} :
    PrivateKey.ofParameters params = .aborted ↔ params.IsDegenerate := by
  unfold PrivateKey.ofParameters
  rw [Outcome.bind_eq_aborted_iff]
  constructor
  · rintro (h | ⟨⟨p, q⟩, -, h⟩)
    · exact recoverFactors_eq_aborted_iff.1 h
    · rcases Outcome.bind_eq_aborted_iff.1 h with hcheck | ⟨_, -, hkey⟩
      · exact absurd hcheck (Outcome.ofExcept_ne_aborted _)
      · cases hkey
  · intro h
    exact Or.inl (recoverFactors_eq_aborted_iff.2 h)

end Rsa

/-- The numbers of the RSA key that a PrivateKeyInfo holds, if it holds one. -/
def PrivateKeyInfo.rsaParameters? (info : PrivateKeyInfo) : Option RsaParameters :=
  match info.keyAlgorithm with
  | .ok .rsa => (RsaParameters.decode info.privateKey).toOption
  | _ => none

/-- The numbers of the RSA key that a specification is about, if it is about one. -/
def Specification.rsaParameters? : Specification → Option RsaParameters
  | .rsa params => some params
  | .pkcs8 _ encoded => (PrivateKeyInfo.decode encoded).toOption.bind (·.rsaParameters?)

namespace PrivateKey

theorem ofInfo_eq_aborted_iff {info : PrivateKeyInfo} :
    ofInfo info = .aborted ↔ ∃ params, info.rsaParameters? = some params ∧ params.IsDegenerate := by
  unfold ofInfo PrivateKeyInfo.rsaParameters?
  rw [Outcome.lift_bind_eq_aborted_iff]
  cases info.keyAlgorithm with
  | error e => simp
  | ok algorithm =>
      cases algorithm with
      | dsa => simp [Outcome.lift_bind_eq_aborted_iff]
      | rsa =>
          simp only [Except.ok.injEq, exists_eq_left', Outcome.lift_bind_eq_aborted_iff,
            toOption_eq_some_iff]
          simp [Outcome.bind_eq_aborted_iff, Rsa.ofParameters_eq_aborted_iff]

theorem ofSpecification_eq_aborted_iff {specification : Specification} :
    ofSpecification specification = .aborted ↔
      ∃ params, specification.rsaParameters? = some params ∧ params.IsDegenerate := by
  cases specification with
  | rsa params =>
      simp [ofSpecification, Specification.rsaParameters?, Outcome.map_eq_aborted_iff,
        Rsa.ofParameters_eq_aborted_iff]
  | pkcs8 algorithm encoded =>
      simp only [ofSpecification, Specification.rsaParameters?, Outcome.lift_bind_eq_aborted_iff,
        ofInfo_eq_aborted_iff, Option.bind_eq_some_iff, toOption_eq_some_iff]
      constructor
      · rintro ⟨info, hinfo, params, hparams, hdegenerate⟩
        exact ⟨params, ⟨info, hinfo, hparams⟩, hdegenerate⟩
      · rintro ⟨params, ⟨info, hinfo, hparams⟩, hdegenerate⟩
        exact ⟨info, hinfo, params, hparams, hdegenerate⟩

theorem ofFile_eq_aborted_iff {bytes : Bytes} {password : Option Bytes} {options : Options} :
    ofFile bytes password options = .aborted ↔ ∃ specification params,
      Specification.ofFile bytes password options = .ok specification ∧
      specification.rsaParameters? = some params ∧ params.IsDegenerate := by
  unfold ofFile
  simp only [Outcome.lift_bind_eq_aborted_iff, ofSpecification_eq_aborted_iff, exists_and_left]

/-- An RSA key from a file has passed its check. -/
theorem isChecked_of_ofFile {bytes : Bytes} {password : Option Bytes} {options : Options}
    {key : Rsa.PrivateKey} (h : ofFile bytes password options = .ok (.rsa key)) :
    key.IsChecked := by
  obtain ⟨specification, -, h⟩ := Outcome.bind_eq_ok_iff.1 h
  cases specification with
  | rsa params =>
      obtain ⟨found, hfound, hkey⟩ := Outcome.map_eq_ok_iff.1 h
      cases hkey
      exact Rsa.PrivateKey.isChecked_of_ofParameters hfound
  | pkcs8 algorithm encoded =>
      obtain ⟨info, -, h⟩ := Outcome.bind_eq_ok_iff.1 h
      obtain ⟨algorithm, -, h⟩ := Outcome.bind_eq_ok_iff.1 h
      cases algorithm with
      | rsa =>
          obtain ⟨params, -, h⟩ := Outcome.bind_eq_ok_iff.1 h
          obtain ⟨found, hfound, hkey⟩ := Outcome.bind_eq_ok_iff.1 h
          cases hkey
          exact Rsa.PrivateKey.isChecked_of_ofParameters hfound
      | dsa =>
          obtain ⟨found, -, hkey⟩ := Outcome.bind_eq_ok_iff.1 h
          cases hkey

/-! ## All steps -/

/-- The loading of a key file aborts for degenerate RSA numbers and for no others: no checked step
has another result than the one it stands for, the slices of a salt and of a derived key are in
range, and a key that was loaded answers every input. The public value of a DSA key needs a prime
that is not zero. -/
theorem key_file_aborts_iff (bytes : Bytes) (password : Option Bytes) (options : Options) :
    (ofFile bytes password options = .aborted ↔ ∃ specification params,
      Specification.ofFile bytes password options = .ok specification ∧
      specification.rsaParameters? = some params ∧ params.IsDegenerate) ∧
    (∀ params, Checked.ofParameters params = Rsa.PrivateKey.ofParameters params) ∧
    (∀ key, ofFile bytes password options = .ok (.rsa key) →
      ∀ input, Checked.apply key input = .ofExcept (key.apply input)) ∧
    (∀ key, ofFile bytes password options = .ok (.dsa key) →
      (key.publicKey? = none ↔ key.p = 0)) ∧
    (∀ text info, Legacy.DekInfo.ofText text = .ok info →
      Legacy.saltLength ≤ info.vector.length) ∧
    ∀ password salt iterations,
      (Pbe.pbkdf1 Digest.md5 password salt iterations).length = 16 ∧
      (Pbe.pbkdf1 Digest.sha1 password salt iterations).length = 16 := by
  refine ⟨ofFile_eq_aborted_iff, Checked.ofParameters_eq, ?operation, ?publicValue, ?salt, ?derived⟩
  case operation =>
    intro key hkey input
    exact Checked.apply_eq (isChecked_of_ofFile hkey) input
  case publicValue =>
    intro key _
    unfold Dsa.PrivateKey.publicKey?
    by_cases hp : key.p = 0 <;> simp [hp]
  case salt =>
    intro text info hinfo
    have hfits := (Legacy.DekInfo.named_and_fits_of_ofText hinfo).2
    exact ((Legacy.Cipher.vectorFits_iff _ _).1 hfits).1
  case derived =>
    intro password salt iterations
    exact ⟨Pbe.length_pbkdf1 Digest.length_md5 (by decide) _ _ _,
      Pbe.length_pbkdf1 Digest.length_sha1 (by decide) _ _ _⟩

/-- An RSA key of 44 bits loads, and its private operation has a result. -/
theorem key_file_aborts_iff_small : ∃ key : Rsa.PrivateKey,
    ofFile (RsaParameters.encode 17592353816951 65537 4160589559577 []) none {} =
      .ok (.rsa key) ∧
    Checked.apply key [2] = .ok [14, 252, 249, 102, 137, 70] := by
  have h : ofFile (RsaParameters.encode 17592353816951 65537 4160589559577 []) none {} =
      .ok (.rsa ⟨17592353816951, 65537, 4160589559577, 4194329, 4194319⟩) := by decide +kernel
  obtain ⟨-, -, happly, -⟩ := key_file_aborts_iff _ _ _
  refine ⟨_, h, (happly _ h [2]).trans ?_⟩
  decide +kernel

/-- An RSAPrivateKey with the private exponent zero aborts. A PrivateKeyInfo with the DSA prime zero
gives a key, and it has no public value. -/
theorem key_file_aborts :
    ofFile (RsaParameters.encode 15 65537 0 []) none {} = .aborted ∧
    (∃ key, ofFile [0x30, 0x1E, 0x02, 0x01, 0x00, 0x30, 0x14, 0x06, 0x07, 0x2A, 0x86, 0x48, 0xCE,
        0x38, 0x04, 0x01, 0x30, 0x09, 0x02, 0x01, 0x00, 0x02, 0x01, 0x03, 0x02, 0x01, 0x02,
        0x04, 0x03, 0x02, 0x01, 0x05] none {} = .ok (.dsa key) ∧ key.publicKey? = none) := by
  refine ⟨by decide +kernel, ⟨0, 3, 2, [5]⟩, by decide +kernel, rfl⟩

end PrivateKey

end Credential.Key
