import Credential.Proofs.Key.Inspection
import Credential.Proofs.Key.Unlocking

/-!
# What a heuristic changes

A heuristic relabels failures and changes nothing else (`heuristic_only_relabels`). A key file has
the same specification under all heuristics, or none under any. A fault that is not a wrong
password under the widest heuristic is the same under all; from the widest to the narrowest, fewer
failures are blamed on the password. With the heuristic off, only a password that PKCS#12 cannot
encode is blamed, and a wrong padding is reported as a failed decryption then and in no other case.
A file that shows no encryption does not know the heuristic at all.

The reason is in `Unlocking.lean`: all runs share one attempt, and each heuristic names its failure.
So the laws below are laws of `Failure.error`, with one case a failure.
-/

namespace Credential.Key

variable {α : Type}

/-- The runs under the three heuristics differ in the names of failures only. -/
structure OnlyRelabels (run : Heuristic → Except Error α) : Prop where
  value_stands : ∀ heuristic other a, run heuristic = .ok a → run other = .ok a
  fault_stands : ∀ e, run .paddingAndStructure = .error e → e.kind ≠ .badPassword →
    ∀ heuristic, run heuristic = .error e
  blame_of_off : run .off = .error .badPassword → run .paddingOnly = .error .badPassword
  blame_of_paddingOnly : run .paddingOnly = .error .badPassword →
    run .paddingAndStructure = .error .badPassword
  failed_when_off : ∀ heuristic cause, run heuristic = .error (.decryptionFailed cause) →
    heuristic = .off

/-! ## Names of failures -/

/-- A cause that blames neither the password nor the decryption. -/
def Error.IsUnblamed (e : Error) : Prop :=
  e ≠ .badPassword ∧ ∀ cause, e ≠ .decryptionFailed cause

theorem Error.IsReading.unblamed {e : Error} (h : e.IsReading) : e.IsUnblamed := by
  constructor
  · rintro rfl
    exact h
  · rintro cause rfl
    exact h

theorem Error.IsSealed.unblamed {e : Error} (h : e.IsSealed) : e.IsUnblamed := by
  rcases h with h | h
  · exact h.unblamed
  · constructor
    · rintro rfl
      cases h
    · rintro cause rfl
      cases h

namespace Heuristic

/-- Only the widest heuristic looks at a plaintext that does not parse. -/
theorem structureFailure_of_ne {heuristic : Heuristic} (h : heuristic ≠ .paddingAndStructure)
    (cause : Error) : heuristic.structureFailure cause = cause :=
  if_neg fun hif => h hif.1

theorem structureFailure_of_malformed {cause : Error} (h : cause.kind = .malformedKey) :
    Heuristic.paddingAndStructure.structureFailure cause = .badPassword :=
  if_pos ⟨rfl, h⟩

theorem structureFailure_of_not_malformed {cause : Error} (h : cause.kind ≠ .malformedKey)
    (heuristic : Heuristic) : heuristic.structureFailure cause = cause :=
  if_neg fun hif => h hif.2

end Heuristic

namespace Failure

/-- The causes that a failure carries blame nobody: the heuristic does, and only after them. -/
def Unblamed : Failure → Prop
  | .broken cause | .unreadable cause => cause.IsUnblamed
  | .encoding | .padding => True

variable {failure : Failure}

theorem error_stands (h : (failure.error .paddingAndStructure).kind ≠ .badPassword)
    (heuristic : Heuristic) :
    failure.error heuristic = failure.error .paddingAndStructure := by
  cases failure with
  | broken cause => rfl
  | encoding => rfl
  | padding => exact absurd rfl h
  | unreadable cause =>
      have hk : cause.kind ≠ .malformedKey := by
        intro hk
        apply h
        show (Heuristic.paddingAndStructure.structureFailure cause).kind = .badPassword
        rw [Heuristic.structureFailure_of_malformed hk]
        rfl
      exact (Heuristic.structureFailure_of_not_malformed hk heuristic).trans
        (Heuristic.structureFailure_of_not_malformed hk .paddingAndStructure).symm

/-- What a heuristic below the widest one blames on the password is a password without an encoding
or a wrong padding. -/
theorem eq_of_ne_structure (hu : failure.Unblamed) {heuristic : Heuristic}
    (hne : heuristic ≠ .paddingAndStructure) (h : failure.error heuristic = .badPassword) :
    failure = .encoding ∨ failure = .padding := by
  cases failure with
  | broken cause => exact absurd h hu.1
  | encoding => exact Or.inl rfl
  | padding => exact Or.inr rfl
  | unreadable cause =>
      have hc : cause = .badPassword :=
        (Heuristic.structureFailure_of_ne hne cause).symm.trans h
      exact absurd hc hu.1

/-- With the heuristic off, only a password without an encoding is blamed. -/
theorem eq_encoding_of_off (hu : failure.Unblamed) (h : failure.error .off = .badPassword) :
    failure = .encoding := by
  rcases eq_of_ne_structure hu (by decide) h with hencoding | rfl
  · exact hencoding
  · cases h

theorem eq_off_of_decryptionFailed (hu : failure.Unblamed) {heuristic : Heuristic}
    {cause : Cipher.Error} (h : failure.error heuristic = .decryptionFailed cause) :
    heuristic = .off := by
  cases failure with
  | broken found => exact absurd h (hu.2 cause)
  | encoding => cases h
  | padding =>
      cases heuristic with
      | paddingAndStructure => cases h
      | paddingOnly => cases h
      | off => rfl
  | unreadable found =>
      by_cases hmalformed : heuristic = .paddingAndStructure ∧ found.kind = .malformedKey
      · have hbad : Failure.error heuristic (.unreadable found) = .badPassword := if_pos hmalformed
        rw [hbad] at h
        cases h
      · have hfound : Failure.error heuristic (.unreadable found) = found := if_neg hmalformed
        exact absurd (hfound.symm.trans h) (hu.2 cause)

end Failure

/-! ## Runs -/

/-- An attempt that knows no heuristic, with its failure named. -/
theorem OnlyRelabels.of_attempt {attempt : Except Failure α}
    (hu : ∀ failure, attempt = .error failure → failure.Unblamed) :
    OnlyRelabels fun heuristic => attempt.mapError (Failure.error heuristic) := by
  cases attempt with
  | ok a =>
      refine ⟨fun _ _ _ h => h, ?_, ?_, ?_, ?_⟩
      · intro e h
        cases h
      · intro h
        cases h
      · intro h
        cases h
      · intro heuristic cause h
        cases h
  | error failure =>
      have hf := hu failure rfl
      refine ⟨?_, ?_, ?_, ?_, ?_⟩
      · intro heuristic other a h
        cases h
      · intro e h hk heuristic
        cases h
        exact congrArg Except.error (Failure.error_stands hk heuristic)
      · intro h
        obtain rfl := Failure.eq_encoding_of_off hf (Except.error.inj h)
        rfl
      · intro h
        -- the widest heuristic blames both on the password as well
        obtain rfl | rfl := Failure.eq_of_ne_structure hf (by decide) (Except.error.inj h)
        · rfl
        · rfl
      · intro heuristic cause h
        exact Failure.eq_off_of_decryptionFailed hf (Except.error.inj h)

/-- A run that does not know the heuristic and blames nobody. -/
theorem OnlyRelabels.of_const {r : Except Error α} (hr : Faults Error.IsUnblamed r) :
    OnlyRelabels fun _ => r where
  value_stands := fun _ _ _ h => h
  fault_stands := fun _ h _ _ => h
  blame_of_off := id
  blame_of_paddingOnly := id
  failed_when_off := fun _ cause h => absurd rfl ((hr _ h).2 cause)

theorem Sealed.unblamed_of_opened {ciphertext : Sealed} {password : Bytes} {failure : Failure}
    (h : ciphertext.opened password = .error failure) : failure.Unblamed := by
  cases openingFails_of_opened h with
  | @iterations _ params _ cause hi => exact (params.faults_iterations cause hi).unblamed
  | encoding hs hp => trivial
  | cipher cause hc =>
      -- a cipher is at fault for the padding or for a length
      rw [hc]
      cases cause <;> simp [Failure.ofCipher, Failure.Unblamed, Error.IsUnblamed]

theorem Sealed.unblamed_of_attempt {ciphertext : Sealed} {password : Bytes} {failure : Failure}
    (h : ciphertext.attempt password = .error failure) : failure.Unblamed := by
  rcases opened_of_attempt h with ho | ⟨plain, cause, hr, rfl⟩
  · exact unblamed_of_opened ho
  · exact (ciphertext.faults_read plain cause hr).unblamed

/-- Whatever the first step of the decoder found, the heuristic only relabels what comes after. -/
theorem Contents.onlyRelabels_specification (contents : Contents) (password : Option Bytes) :
    OnlyRelabels fun heuristic => contents.specification password heuristic := by
  cases contents with
  | clear specification => exact .of_const (faults_ok _)
  | sealed ciphertext =>
      cases password with
      | none => exact .of_const (faults_error (by simp [Error.IsUnblamed]))
      | some password =>
          have heq (heuristic : Heuristic) :
              (Contents.sealed ciphertext).specification (some password) heuristic =
                (ciphertext.attempt password).mapError (Failure.error heuristic) :=
            ciphertext.unlock_eq password heuristic
          simp only [heq]
          exact .of_attempt fun _ => Sealed.unblamed_of_attempt

theorem Specification.onlyRelabels_ofFile (bytes : Bytes) (password : Option Bytes)
    (policy : Policy) :
    OnlyRelabels fun heuristic => Specification.ofFile bytes password ⟨policy, heuristic⟩ := by
  simp only [Specification.ofFile_eq_contents]
  cases hc : Contents.ofFile bytes policy with
  | error cause => exact .of_const (faults_error (Contents.faults_ofFile _ _ _ hc).unblamed)
  | ok contents => exact contents.onlyRelabels_specification password

/-! ## A password without an encoding -/

/-- An attempt that fails for want of an encoding was made under PKCS#12. -/
theorem Sealed.of_attempt_encoding {ciphertext : Sealed} {password : Bytes}
    (h : ciphertext.attempt password = .error .encoding) :
    Text.Utf8.decode? password = none ∧ ∃ scheme params data,
      ciphertext = .pbe scheme params data ∧ scheme ∈ Pbe.Scheme.ofPkcs12 := by
  rcases opened_of_attempt h with ho | ⟨plain, cause, -, hunreadable⟩
  · cases openingFails_of_opened ho with
    | encoding hs hp => exact ⟨hp, _, _, _, rfl, hs⟩
    | cipher cause hc =>
        -- no fault of a cipher is one of an encoding
        cases cause <;> cases hc
  · cases hunreadable

/-- A container whose ciphertext is one of a scheme shows the scheme. -/
theorem Container.info_of_pbe {container : Container} {policy : Policy} {scheme : Pbe.Scheme}
    {params : Pbe.Parameters} {data : Bytes}
    (h : Contents.ofContainer container policy = .ok (.sealed (.pbe scheme params data))) :
    ∃ info, container.info = .ok info ∧ info.structure_ = .encryptedPkcs8 ∧
      info.encryption = some scheme.name := by
  obtain ⟨info, hi, -, ⟨_, _, hc, -⟩ | ⟨_, _, _, hc, hst, -, he⟩⟩ := info_of_sealed h
  · cases hc
  · cases hc
    exact ⟨info, hi, hst, he⟩

/-! ## Files -/

/-- Only a ciphertext with a password at hand ends in a wrong password. -/
theorem Specification.sealed_of_badPassword {bytes : Bytes} {password : Option Bytes}
    {options : Options} (h : Specification.ofFile bytes password options = .error .badPassword) :
    ∃ ciphertext secret, Contents.ofFile bytes options.policy = .ok (.sealed ciphertext) ∧
      password = some secret ∧
      ciphertext.unlock secret options.heuristic = .error .badPassword := by
  rw [Specification.ofFile_eq_contents] at h
  cases hc : Contents.ofFile bytes options.policy with
  | error cause =>
      rw [hc] at h
      cases h
      exact ((Contents.faults_ofFile bytes _ _ hc).unblamed.1 rfl).elim
  | ok contents =>
      rw [hc] at h
      cases contents with
      | clear specification => cases h
      | sealed ciphertext =>
          cases password with
          | none => cases h
          | some secret => exact ⟨ciphertext, secret, rfl, rfl, h⟩

/-- With the heuristic off, the password is blamed for its encoding. -/
theorem Sealed.of_unlock_off {ciphertext : Sealed} {password : Bytes}
    (h : ciphertext.unlock password .off = .error .badPassword) :
    ciphertext.attempt password = .error .encoding := by
  rw [unlock_eq] at h
  obtain ⟨failure, ha, hf⟩ := mapError_eq_error_iff.1 h
  rw [ha, Failure.eq_encoding_of_off (unblamed_of_attempt ha) hf]

theorem Info.of_pbe {bytes : Bytes} {policy : Policy} {scheme : Pbe.Scheme}
    {params : Pbe.Parameters} {data : Bytes}
    (h : Contents.ofFile bytes policy = .ok (.sealed (.pbe scheme params data))) :
    ∃ info, Info.ofFile bytes = .ok info ∧ info.structure_ = .encryptedPkcs8 ∧
      info.encryption = some scheme.name := by
  obtain ⟨container, hf, hc⟩ := bind_eq_ok_iff.1 h
  rw [Info.ofFile_eq, hf]
  exact Container.info_of_pbe hc

/-- A file with a ciphertext shows its encryption. -/
theorem Info.of_sealed {bytes : Bytes} {policy : Policy} {ciphertext : Sealed}
    (h : Contents.ofFile bytes policy = .ok (.sealed ciphertext)) :
    ∃ info, Info.ofFile bytes = .ok info ∧ info.isEncrypted = true := by
  obtain ⟨container, hf, hc⟩ := bind_eq_ok_iff.1 h
  obtain ⟨info, hi, he, -⟩ := Container.info_of_sealed hc
  rw [Info.ofFile_eq, hf]
  exact ⟨info, hi, he⟩

/-- A file without a ciphertext knows neither the password nor the heuristic. -/
theorem Specification.ofFile_of_not_sealed {bytes : Bytes} {policy : Policy}
    (h : ∀ ciphertext, Contents.ofFile bytes policy ≠ .ok (.sealed ciphertext))
    (password password' : Option Bytes) (heuristic other : Heuristic) :
    Specification.ofFile bytes password ⟨policy, heuristic⟩ =
      Specification.ofFile bytes password' ⟨policy, other⟩ := by
  simp only [Specification.ofFile_eq_contents]
  cases hc : Contents.ofFile bytes policy with
  | error cause => simp only [Except.bind]
  | ok contents =>
      cases contents with
      | clear specification => simp only [Except.bind, Contents.specification]
      | sealed ciphertext => exact absurd hc (h ciphertext)

/-- A heuristic relabels failures and changes nothing else. With the heuristic off, the password is
blamed only if a scheme of PKCS#12 cannot encode it. A file that shows no encryption has one outcome
for all heuristics, and it is no wrong password. -/
theorem heuristic_only_relabels (bytes : Bytes) (password : Option Bytes) (policy : Policy) :
    OnlyRelabels (fun heuristic => Specification.ofFile bytes password ⟨policy, heuristic⟩) ∧
    (Specification.ofFile bytes password ⟨policy, .off⟩ = .error .badPassword →
      (∃ info scheme, Info.ofFile bytes = .ok info ∧ info.structure_ = .encryptedPkcs8 ∧
        info.encryption = some scheme.name ∧ scheme ∈ Pbe.Scheme.ofPkcs12) ∧
      ∃ secret, password = some secret ∧ Text.Utf8.decode? secret = none) ∧
    ((¬ ∃ info, Info.ofFile bytes = .ok info ∧ info.isEncrypted = true) →
      ∀ heuristic other,
        Specification.ofFile bytes password ⟨policy, heuristic⟩ =
          Specification.ofFile bytes password ⟨policy, other⟩ ∧
        Specification.ofFile bytes password ⟨policy, heuristic⟩ ≠ .error .badPassword) := by
  refine ⟨Specification.onlyRelabels_ofFile bytes password policy, ?_, ?_⟩
  · -- off blames the encoding alone, and the encoding is one of PKCS#12
    intro h
    obtain ⟨ciphertext, secret, hc, rfl, hu⟩ := Specification.sealed_of_badPassword h
    obtain ⟨hp, scheme, params, data, rfl, hs⟩ :=
      Sealed.of_attempt_encoding (Sealed.of_unlock_off hu)
    obtain ⟨info, hi, hst, he⟩ := Info.of_pbe hc
    exact ⟨⟨info, scheme, hi, hst, he, hs⟩, secret, rfl, hp⟩
  · intro hshows heuristic other
    have hclear (ciphertext : Sealed) : Contents.ofFile bytes policy ≠ .ok (.sealed ciphertext) :=
      fun hc => hshows (Info.of_sealed hc)
    constructor
    · exact Specification.ofFile_of_not_sealed hclear password password heuristic other
    · intro h
      obtain ⟨ciphertext, -, hc, -⟩ := Specification.sealed_of_badPassword h
      exact hclear ciphertext hc

end Credential.Key
