import Credential.Proofs.Cipher.Decrypt
import Credential.Proofs.Key.DekInfo
import Credential.Proofs.Key.DerivedLength
import Credential.Proofs.Key.Sealed

/-!
# Unlocking without a heuristic

A heuristic only names failures. `Sealed.attempt` unlocks a ciphertext without one and ends in the
key or in a `Failure`, which says at which stage it failed; `Failure.error` is the fault that a
heuristic reports for it, and `Sealed.unlock_eq` says that the two together are the unlocking. So
runs under several heuristics share one attempt, and compare by what they call its failure.

What derives a key gives as many octets as the cipher takes, so a ciphertext that comes to a block
cipher is decrypted with a key and a vector that fit (`Sealed.opened_of_enters`), and the cipher is
at fault for octets that are no whole blocks only (`Sealed.opened_eq_cipher_iff`).

A failure of the file itself, `Failure.broken`, does not depend on the password. A ciphertext from a
file has none if it is well formed (`Sealed.opened_of_wellFormed`), and otherwise has the same one
for every password that its scheme can encode (`Sealed.opened_of_not_wellFormed`).
-/

namespace Credential.Key

/-- Where the unlocking of a ciphertext fails: at a part of the file that no password mends, at a
password that has no encoding, at the padding, or at a plaintext that does not parse. -/
inductive Failure where
  | broken (cause : Error)
  | encoding
  | padding
  | unreadable (cause : Error)
  deriving DecidableEq, Repr

namespace Failure

/-- The failure that a fault of the cipher is. -/
def ofCipher : Cipher.Error → Failure
  | .padding => .padding
  | cause => .broken (.cipher cause)

/-- The fault that a heuristic reports. -/
def error (heuristic : Heuristic) : Failure → Error
  | .broken cause => cause
  | .encoding => .badPassword
  | .padding => heuristic.cipherFailure .padding
  | .unreadable cause => heuristic.structureFailure cause

theorem error_ofCipher (heuristic : Heuristic) (cause : Cipher.Error) :
    (ofCipher cause).error heuristic = heuristic.cipherFailure cause := by
  cases heuristic <;> cases cause <;> rfl

/-- A fault of the cipher breaks the file, unless it is one of the padding. -/
theorem mapError_ofCipher_iff {r : Except Cipher.Error Bytes} {cause : Cipher.Error} :
    r.mapError ofCipher = .error (.broken (.cipher cause)) ↔
      r = .error cause ∧ cause ≠ .padding := by
  rw [mapError_eq_error_iff]
  constructor
  · rintro ⟨found, h, hfound⟩
    cases found with
    | padding => cases hfound
    | keyLength count | ivLength expected actual | ciphertextLength count =>
        cases hfound
        exact ⟨h, by simp⟩
  · rintro ⟨h, hne⟩
    refine ⟨cause, h, ?_⟩
    cases cause with
    | padding => exact absurd rfl hne
    | keyLength count | ivLength expected actual | ciphertextLength count => rfl

end Failure

theorem Pbe.Parameters.bounds_of_iterations {params : Pbe.Parameters} {iterations : Nat}
    (h : params.iterations = .ok iterations) :
    0 < params.iterationCount ∧ params.iterationCount < Text.Decimal.bound32 := by
  unfold Pbe.Parameters.iterations at h
  split at h
  · assumption
  · cases h

namespace Sealed

/-- The plaintext under a password. -/
def opened (password : Bytes) : Sealed → Except Failure Bytes
  | .legacy info data =>
    (info.cipher.decrypt (Legacy.deriveKey password info.salt info.cipher.keyLength)
      info.vector data).mapError .ofCipher
  | .pbe scheme params data => do
    let iterations ← params.iterations.mapError .broken
    match scheme.derive? password params.salt iterations with
    | none => throw .encoding
    | some (key, vector) =>
      (Cipher.decrypt scheme.cipher .cbc key vector data).mapError .ofCipher

/-- The specification of the key under a password. -/
def attempt (password : Bytes) (ciphertext : Sealed) : Except Failure Specification := do
  let plain ← ciphertext.opened password
  (ciphertext.read plain).mapError .unreadable

/-! ## The heuristic comes last -/

theorem plaintext_eq (ciphertext : Sealed) (password : Bytes) (heuristic : Heuristic) :
    ciphertext.plaintext password heuristic =
      (ciphertext.opened password).mapError (Failure.error heuristic) := by
  have hcipher : heuristic.cipherFailure = fun cause => (Failure.ofCipher cause).error heuristic :=
    funext fun cause => (Failure.error_ofCipher heuristic cause).symm
  cases ciphertext with
  | legacy info data =>
      simp only [plaintext, opened, hcipher, mapError_mapError]
  | pbe scheme params data =>
      have hbroken : (params.iterations.mapError .broken).mapError (Failure.error heuristic) =
          params.iterations :=
        (mapError_mapError _ _ _).trans (mapError_self _)
      simp only [plaintext, opened, Pbe.Scheme.decrypt, mapError_bind, hbroken]
      congr 1
      funext iterations
      cases scheme.derive? password params.salt iterations with
      | none => rfl
      | some derived =>
          simp only [hcipher, mapError_mapError]

/-- Unlocking under a heuristic is an attempt whose failure the heuristic names. -/
theorem unlock_eq (ciphertext : Sealed) (password : Bytes) (heuristic : Heuristic) :
    ciphertext.unlock password heuristic =
      (ciphertext.attempt password).mapError (Failure.error heuristic) := by
  unfold unlock attempt
  rw [plaintext_eq, mapError_bind]
  congr 1
  funext plain
  rw [mapError_mapError]
  rfl

/-! ## Where an attempt fails -/

/-- Why a ciphertext is not opened: the number of iterations is refused, the scheme has no encoding
of the password, or the cipher fails. -/
inductive OpeningFails (password : Bytes) : Sealed → Failure → Prop
  | iterations {scheme : Pbe.Scheme} {params : Pbe.Parameters} {data : Bytes} {cause : Error} :
      params.iterations = .error cause →
      OpeningFails password (.pbe scheme params data) (.broken cause)
  | encoding {scheme : Pbe.Scheme} {params : Pbe.Parameters} {data : Bytes} :
      scheme ∈ Pbe.Scheme.ofPkcs12 → Text.Utf8.decode? password = none →
      OpeningFails password (.pbe scheme params data) .encoding
  | cipher {ciphertext : Sealed} {failure : Failure} (cause : Cipher.Error) :
      failure = .ofCipher cause → OpeningFails password ciphertext failure

theorem openingFails_of_opened {ciphertext : Sealed} {password : Bytes} {failure : Failure}
    (h : ciphertext.opened password = .error failure) :
    OpeningFails password ciphertext failure := by
  have hcipher {r : Except Cipher.Error Bytes} (h : r.mapError .ofCipher = .error failure) :
      OpeningFails password ciphertext failure := by
    obtain ⟨cause, -, hc⟩ := mapError_eq_error_iff.1 h
    exact .cipher cause hc.symm
  cases ciphertext with
  | legacy info data => exact hcipher h
  | pbe scheme params data =>
      rcases bind_eq_error_iff.1 h with hcount | ⟨iterations, -, h⟩
      · obtain ⟨cause, hi, rfl⟩ := mapError_eq_error_iff.1 hcount
        exact .iterations hi
      · cases hd : scheme.derive? password params.salt iterations with
        | none =>
            rw [hd] at h
            cases h
            obtain ⟨hs, hp⟩ := (scheme.derive?_eq_none_iff _ _ _).1 hd
            exact .encoding hs hp
        | some derived =>
            rw [hd] at h
            exact hcipher h

/-- An attempt fails before the plaintext, or at a plaintext that does not parse. -/
theorem opened_of_attempt {ciphertext : Sealed} {password : Bytes} {failure : Failure}
    (h : ciphertext.attempt password = .error failure) :
    ciphertext.opened password = .error failure ∨
      ∃ plain cause, ciphertext.read plain = .error cause ∧ failure = .unreadable cause := by
  rcases bind_eq_error_iff.1 h with ho | ⟨plain, -, hread⟩
  · exact Or.inl ho
  · obtain ⟨cause, hr, hf⟩ := mapError_eq_error_iff.1 hread
    exact Or.inr ⟨plain, cause, hr, hf.symm⟩

/-! ## Failures of the file -/

/-- A ciphertext that a file can hold: its cipher has a name and its vector fits. -/
def Fits : Sealed → Prop
  | .legacy info _ => info.cipher.IsNamed ∧ info.cipher.VectorFits info.vector
  | .pbe _ _ _ => True

/-- A ciphertext of which every part but the plaintext is in order: whole blocks where the cipher
wants them, and a number of iterations that is positive and fits 32 bits. -/
def WellFormed : Sealed → Prop
  | .legacy ⟨.block algorithm mode, _⟩ data =>
    mode.isPadded = true → Cipher.WholeBlocks algorithm.blockSize data
  | .legacy ⟨.rc4 _, _⟩ _ => True
  | .pbe scheme params data =>
    (0 < params.iterationCount ∧ params.iterationCount < Text.Decimal.bound32) ∧
      Cipher.WholeBlocks scheme.cipher.blockSize data

theorem fits_of_ofContainer {container : Container} {policy : Policy} {ciphertext : Sealed}
    (h : Contents.ofContainer container policy = .ok (.sealed ciphertext)) : ciphertext.Fits := by
  rcases (Contents.ofContainer_eq_sealed_iff _ _ _).1 h with ⟨headers, -, hl⟩ | ⟨-, hl⟩
  · obtain ⟨-, info, hd, -, rfl⟩ := (Sealed.ofLegacy_eq_ok_iff _ _ _ _).1 hl
    unfold Legacy.dekInfoOf at hd
    split at hd
    · cases hd
    · exact Legacy.DekInfo.named_and_fits_of_ofText hd
  · obtain ⟨_, _, _, -, -, -, -, rfl⟩ := (Sealed.ofEncryptedPkcs8_eq_ok_iff _ _ _).1 hl
    trivial

/-- The ciphertext of a file fits. -/
theorem fits_of_ofFile {bytes : Bytes} {policy : Policy} {ciphertext : Sealed}
    (h : Contents.ofFile bytes policy = .ok (.sealed ciphertext)) : ciphertext.Fits := by
  obtain ⟨container, -, hcontents⟩ := bind_eq_ok_iff.1 h
  exact fits_of_ofContainer hcontents

/-- A decryption under RC4 has a plaintext, since derived keys fit. -/
theorem rc4_of_isNamed {keyBits : Nat} (h : (Legacy.Cipher.rc4 keyBits).IsNamed) {key : Bytes}
    (hkey : key.length = (Legacy.Cipher.rc4 keyBits).keyLength) (vector data : Bytes) :
    (Legacy.Cipher.rc4 keyBits).decrypt key vector data =
      .ok (Bytes.xor data (Cipher.Rc4.stream data.length (Cipher.Rc4.setup key))) := by
  have hlength := Legacy.Cipher.keyLength_of_isNamed h
  rw [← hkey] at hlength
  exact if_pos hlength

/-! ## Ciphertexts that come to a block cipher -/

/-- The decryption by a block cipher that a ciphertext and a password come to. -/
inductive Enters (password : Bytes) :
    Sealed → Cipher.Algorithm → Cipher.Mode → Bytes → Prop
  | legacy {algorithm : Cipher.Algorithm} {mode : Cipher.Mode} {vector data : Bytes} :
      Enters password (.legacy ⟨.block algorithm mode, vector⟩ data) algorithm mode data
  | pbe {scheme : Pbe.Scheme} {params : Pbe.Parameters} {data : Bytes} :
      0 < params.iterationCount → params.iterationCount < Text.Decimal.bound32 →
      (scheme ∈ Pbe.Scheme.ofPkcs12 → ∃ text, Text.Utf8.decode? password = some text) →
      Enters password (.pbe scheme params data) scheme.cipher .cbc data

variable {ciphertext : Sealed} {password payload : Bytes} {algorithm : Cipher.Algorithm}
  {mode : Cipher.Mode}

/-- The key and the vector that a ciphertext is decrypted with fit its cipher. -/
theorem opened_of_enters (hf : ciphertext.Fits)
    (h : ciphertext.Enters password algorithm mode payload) :
    ∃ key vector, key.length = algorithm.keyLength ∧
      (mode.usesVector = true → vector.length = algorithm.blockSize) ∧
      ciphertext.opened password =
        (Cipher.decrypt algorithm mode key vector payload).mapError .ofCipher := by
  cases h with
  | legacy =>
      obtain ⟨-, hvector⟩ := hf
      exact ⟨_, _, Legacy.length_deriveKey _ _ _, hvector.length_eq, rfl⟩
  | @pbe scheme params data hpos hlt hpassword =>
      have hiterations : params.iterations = .ok params.iterationCount := if_pos ⟨hpos, hlt⟩
      obtain ⟨⟨key, vector⟩, hderive⟩ :=
        (scheme.exists_derive?_iff password params.salt params.iterationCount).2 hpassword
      obtain ⟨hkey, hvector⟩ := Pbe.Scheme.lengths_of_derive? hderive
      refine ⟨key, vector, hkey, fun _ => hvector, ?_⟩
      unfold opened
      dsimp only
      rw [hiterations]
      dsimp only [bind, Except.bind, Except.mapError]
      rw [hderive]

/-- A ciphertext whose cipher is at fault comes to a block cipher, since RC4 takes any octets. -/
theorem enters_of_opened (hf : ciphertext.Fits) {cause : Cipher.Error}
    (h : ciphertext.opened password = .error (.broken (.cipher cause))) :
    ∃ algorithm mode payload, ciphertext.Enters password algorithm mode payload := by
  cases ciphertext with
  | legacy info data =>
      obtain ⟨cipher, vector⟩ := info
      cases cipher with
      | block algorithm mode => exact ⟨algorithm, mode, data, .legacy⟩
      | rc4 keyBits =>
          unfold opened at h
          dsimp only at h
          rw [rc4_of_isNamed hf.1 (Legacy.length_deriveKey _ _ _)] at h
          cases h
  | pbe scheme params data =>
      rcases bind_eq_error_iff.1 h with hcount | ⟨iterations, hcount, h⟩
      · obtain ⟨found, hfound, hcause⟩ := mapError_eq_error_iff.1 hcount
        cases hcause
        exact absurd (params.faults_iterations _ hfound) id
      · obtain ⟨hpos, hlt⟩ := Pbe.Parameters.bounds_of_iterations (mapError_eq_ok_iff.1 hcount)
        refine ⟨_, _, data, .pbe hpos hlt fun hscheme => ?_⟩
        cases hderive : scheme.derive? password params.salt iterations with
        | none =>
            rw [hderive] at h
            cases h
        | some derived =>
            exact (scheme.exists_derive?_iff _ _ _).1 ⟨derived, hderive⟩ hscheme

/-- The cipher of a ciphertext from a file is at fault for octets that are no whole blocks, and for
nothing else but a wrong padding. -/
theorem opened_eq_cipher_iff (hf : ciphertext.Fits) {cause : Cipher.Error} :
    ciphertext.opened password = .error (.broken (.cipher cause)) ↔
      ∃ algorithm mode payload, ciphertext.Enters password algorithm mode payload ∧
        mode.isPadded = true ∧ ¬ Cipher.WholeBlocks algorithm.blockSize payload ∧
        cause = .ciphertextLength payload.length := by
  constructor
  · intro h
    obtain ⟨algorithm, mode, payload, henters⟩ := enters_of_opened hf h
    obtain ⟨key, vector, hkey, hvector, hopened⟩ := opened_of_enters hf henters
    have hfault := Failure.mapError_ofCipher_iff.1 (hopened.symm.trans h)
    exact ⟨algorithm, mode, payload, henters, (Cipher.decrypt_eq_fault_iff hkey hvector).1 hfault⟩
  · rintro ⟨algorithm, mode, payload, henters, hfault⟩
    obtain ⟨key, vector, hkey, hvector, hopened⟩ := opened_of_enters hf henters
    rw [hopened, Failure.mapError_ofCipher_iff]
    exact (Cipher.decrypt_eq_fault_iff hkey hvector).2 hfault

/-! ## Files in order and out of order -/

/-- A file in order brings whole blocks to a mode that works on them. -/
theorem Enters.wholeBlocks (h : ciphertext.Enters password algorithm mode payload)
    (hw : ciphertext.WellFormed) (hpadded : mode.isPadded = true) :
    Cipher.WholeBlocks algorithm.blockSize payload := by
  cases h with
  | legacy => exact hw hpadded
  | pbe => exact hw.2

/-- A file in order fails at the password, at the padding or at the plaintext only. -/
theorem opened_of_wellFormed (hf : ciphertext.Fits) (hw : ciphertext.WellFormed)
    (password : Bytes) (cause : Error) : ciphertext.opened password ≠ .error (.broken cause) := by
  intro h
  cases openingFails_of_opened h with
  | @iterations _ params _ _ hcount =>
      have hiterations : params.iterations = .ok params.iterationCount := if_pos hw.1
      cases hiterations.symm.trans hcount
  | cipher found hfound =>
      cases found with
      | padding => cases hfound
      | keyLength count | ivLength expected actual | ciphertextLength count =>
          cases hfound
          obtain ⟨algorithm, mode, payload, henters, hpadded, hparts, -⟩ :=
            (opened_eq_cipher_iff hf).1 h
          exact hparts (henters.wholeBlocks hw hpadded)

/-- A file out of order fails in one way for every password, but for one without an encoding. -/
theorem opened_of_not_wellFormed (hf : ciphertext.Fits) (hw : ¬ ciphertext.WellFormed) :
    ∃ cause, cause.kind = .malformedKey ∧ ∀ password,
      ciphertext.opened password = .error (.broken cause) ∨
        Text.Utf8.decode? password = none ∧ ciphertext.opened password = .error .encoding := by
  cases ciphertext with
  | legacy info data =>
      obtain ⟨cipher, vector⟩ := info
      cases cipher with
      | rc4 keyBits => exact absurd trivial hw
      | block algorithm mode =>
          obtain ⟨hpadded, hdata⟩ := Classical.not_imp.1 hw
          refine ⟨.cipher (.ciphertextLength data.length), rfl, fun password => Or.inl ?_⟩
          exact (opened_eq_cipher_iff hf).2 ⟨_, _, _, .legacy, hpadded, hdata, rfl⟩
  | pbe scheme params data =>
      by_cases hcount : 0 < params.iterationCount ∧ params.iterationCount < Text.Decimal.bound32
      · have hdata : ¬ Cipher.WholeBlocks scheme.cipher.blockSize data := fun h => hw ⟨hcount, h⟩
        refine ⟨.cipher (.ciphertextLength data.length), rfl, fun password => ?_⟩
        cases hderive : scheme.derive? password params.salt params.iterationCount with
        | none =>
            have hiterations : params.iterations = .ok params.iterationCount := if_pos hcount
            refine Or.inr ⟨((scheme.derive?_eq_none_iff _ _ _).1 hderive).2, ?_⟩
            unfold opened
            dsimp only
            rw [hiterations]
            dsimp only [bind, Except.bind, Except.mapError]
            rw [hderive]
            rfl
        | some derived =>
            have hencoded := (scheme.exists_derive?_iff _ _ _).1 ⟨derived, hderive⟩
            exact Or.inl ((opened_eq_cipher_iff hf).2
              ⟨_, _, _, .pbe hcount.1 hcount.2 hencoded, rfl, hdata, rfl⟩)
      · have hiterations : params.iterations =
            .error (.invalidPbeParameters (.iterationCount params.iterationCount)) := if_neg hcount
        refine ⟨.invalidPbeParameters (.iterationCount params.iterationCount), rfl,
          fun password => Or.inl ?_⟩
        unfold opened
        dsimp only
        rw [hiterations]
        rfl

end Sealed

end Credential.Key
