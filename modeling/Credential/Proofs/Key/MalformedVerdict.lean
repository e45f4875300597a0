import Credential.Proofs.Key.Relabelling

/-!
# Malformed files and passwords

Under the widest heuristic a file is called malformed for what it is and never for the password
(`malformed_verdict_stands`): what is malformed with one password is malformed with every password,
by the same fault, unless the other one has no encoding and is blamed for that.

So a ciphertext whose file is in order otherwise (`Sealed.WellFormed`) opens, is blamed on the
password, or holds a key of an algorithm that is not supported. Being in order is also necessary:
any other ciphertext is malformed for the empty password.
-/

namespace Credential.Key

/-- An outcome that does not call the file malformed: a key, a wrong password, or something that is
not supported. -/
def Undamaged {α : Type} (r : Except Error α) : Prop :=
  (∃ a, r = .ok a) ∨ r = .error .badPassword ∨
    ∃ e, r = .error e ∧ e.kind = .unsupportedAlgorithm

theorem Undamaged.kind_ne {α : Type} {r : Except Error α} (h : Undamaged r) {e : Error}
    (he : r = .error e) : e.kind ≠ .malformedKey := by
  intro hk
  rcases h with ⟨a, ha⟩ | hb | ⟨found, hf, hu⟩
  · cases ha.symm.trans he
  · cases hb.symm.trans he
    cases hk
  · cases hf.symm.trans he
    rw [hk] at hu
    cases hu

/-- What the widest heuristic calls malformed is a failure of the file. -/
theorem Failure.eq_broken_of_malformed {failure : Failure}
    (h : (failure.error .paddingAndStructure).kind = .malformedKey) :
    failure = .broken (failure.error .paddingAndStructure) := by
  cases failure with
  | broken cause => rfl
  | encoding => cases h
  | padding => cases h
  | unreadable cause =>
      by_cases hk : cause.kind = .malformedKey
      · have hbad : Failure.error .paddingAndStructure (.unreadable cause) = .badPassword :=
          Heuristic.structureFailure_of_malformed hk
        rw [hbad] at h
        cases h
      · have hsame : Failure.error .paddingAndStructure (.unreadable cause) = cause :=
          Heuristic.structureFailure_of_not_malformed hk _
        rw [hsame] at h
        exact absurd h hk

namespace Sealed

variable {ciphertext : Sealed}

/-- A failure before the plaintext is the failure of the attempt. -/
theorem attempt_of_opened {password : Bytes} {failure : Failure}
    (h : ciphertext.opened password = .error failure) :
    ciphertext.attempt password = .error failure := by
  unfold attempt
  rw [h]
  rfl

/-- A broken file shows before the plaintext is read. -/
theorem opened_of_attempt_broken {password : Bytes} {cause : Error}
    (h : ciphertext.attempt password = .error (.broken cause)) :
    ciphertext.opened password = .error (.broken cause) := by
  rcases opened_of_attempt h with ho | ⟨plain, found, -, hunreadable⟩
  · exact ho
  · cases hunreadable

/-- A ciphertext in order is never called malformed. -/
theorem undamaged_of_wellFormed (hf : ciphertext.Fits) (hw : ciphertext.WellFormed)
    (password : Bytes) : Undamaged (ciphertext.unlock password .paddingAndStructure) := by
  rw [unlock_eq]
  cases ha : ciphertext.attempt password with
  | ok specification => exact Or.inl ⟨specification, rfl⟩
  | error failure =>
      -- the kinds of faults that show with a password are malformed, unsupported and wrong password
      have hkind : (failure.error .paddingAndStructure).kind ∈ Kind.ofOpened := by
        apply ciphertext.faultsIn_unlock password .paddingAndStructure
        rw [unlock_eq, ha]
        rfl
      simp only [Kind.ofOpened, List.mem_cons, List.not_mem_nil, or_false] at hkind
      rcases hkind with hk | hk | hk
      · have hbroken := Failure.eq_broken_of_malformed hk
        rw [hbroken] at ha
        exact absurd (opened_of_attempt_broken ha) (opened_of_wellFormed hf hw password _)
      · exact Or.inr (Or.inr ⟨_, rfl, hk⟩)
      · exact Or.inr (Or.inl (congrArg Except.error ((Error.kind_eq_badPassword_iff _).1 hk)))

/-- A ciphertext out of order is malformed by one fault, or the password has no encoding. -/
theorem unlock_of_not_wellFormed (hf : ciphertext.Fits) (hw : ¬ ciphertext.WellFormed) :
    ∃ cause, cause.kind = .malformedKey ∧ ∀ password heuristic,
      ciphertext.unlock password heuristic = .error cause ∨
        Text.Utf8.decode? password = none ∧
          ciphertext.unlock password heuristic = .error .badPassword := by
  obtain ⟨cause, hk, hall⟩ := opened_of_not_wellFormed hf hw
  refine ⟨cause, hk, fun password heuristic => ?_⟩
  rw [unlock_eq]
  rcases hall password with ho | ⟨hp, ho⟩
  · rw [attempt_of_opened ho]
    exact Or.inl rfl
  · rw [attempt_of_opened ho]
    exact Or.inr ⟨hp, rfl⟩

/-- A malformed verdict stands for every password that can be encoded. -/
theorem unlock_of_malformed (hf : ciphertext.Fits) {password : Bytes} {e : Error}
    (h : ciphertext.unlock password .paddingAndStructure = .error e)
    (hk : e.kind = .malformedKey) (other : Bytes) :
    ciphertext.unlock other .paddingAndStructure = .error e ∨
      Text.Utf8.decode? other = none ∧
        ciphertext.unlock other .paddingAndStructure = .error .badPassword := by
  by_cases hw : ciphertext.WellFormed
  · exact absurd hk ((undamaged_of_wellFormed hf hw password).kind_ne h)
  · obtain ⟨cause, -, hall⟩ := unlock_of_not_wellFormed hf hw
    have he : e = cause := by
      rcases hall password .paddingAndStructure with hcause | ⟨-, hbad⟩
      · exact Except.error.inj (h.symm.trans hcause)
      · cases h.symm.trans hbad
        cases hk
    rw [he]
    exact hall other .paddingAndStructure

/-- The ciphertexts that no password makes malformed are those in order. -/
theorem wellFormed_iff (hf : ciphertext.Fits) :
    ciphertext.WellFormed ↔
      ∀ password, Undamaged (ciphertext.unlock password .paddingAndStructure) := by
  constructor
  · exact undamaged_of_wellFormed hf
  · intro hall
    apply Classical.byContradiction
    intro hw
    obtain ⟨cause, hk, hbroken⟩ := unlock_of_not_wellFormed hf hw
    -- the empty password has an encoding
    have hempty : Text.Utf8.decode? [] = some "" := Text.Utf8.decode?_encode ""
    have h : ciphertext.unlock [] .paddingAndStructure = .error cause := by
      rcases hbroken [] .paddingAndStructure with h | ⟨hnone, -⟩
      · exact h
      · rw [hempty] at hnone
        cases hnone
    exact (hall []).kind_ne h hk

end Sealed

/-- A file with a ciphertext, and a password at hand. -/
theorem Specification.ofFile_of_sealed {bytes : Bytes} {policy : Policy} {ciphertext : Sealed}
    (h : Contents.ofFile bytes policy = .ok (.sealed ciphertext)) (password : Bytes)
    (heuristic : Heuristic) :
    Specification.ofFile bytes (some password) ⟨policy, heuristic⟩ =
      ciphertext.unlock password heuristic := by
  rw [Specification.ofFile_eq_contents, h]
  rfl

/-- Under the widest heuristic, a malformed verdict stands for every password that can be encoded. A
file with a ciphertext gets none, for any password, exactly if the ciphertext is well formed. -/
theorem malformed_verdict_stands (bytes : Bytes) (policy : Policy) :
    (∀ password e,
      Specification.ofFile bytes (some password) ⟨policy, .paddingAndStructure⟩ = .error e →
      e.kind = .malformedKey → ∀ other,
        Specification.ofFile bytes (some other) ⟨policy, .paddingAndStructure⟩ = .error e ∨
        Text.Utf8.decode? other = none ∧
          Specification.ofFile bytes (some other) ⟨policy, .paddingAndStructure⟩ =
            .error .badPassword) ∧
    (∀ ciphertext, Contents.ofFile bytes policy = .ok (.sealed ciphertext) →
      (ciphertext.WellFormed ↔ ∀ password, Undamaged
        (Specification.ofFile bytes (some password) ⟨policy, .paddingAndStructure⟩))) := by
  by_cases hs : ∃ ciphertext, Contents.ofFile bytes policy = .ok (.sealed ciphertext)
  · obtain ⟨ciphertext, hc⟩ := hs
    obtain ⟨container, -, hcontainer⟩ := bind_eq_ok_iff.1 hc
    have hf : ciphertext.Fits := Sealed.fits_of_ofContainer hcontainer
    simp only [Specification.ofFile_of_sealed hc]
    constructor
    · intro password e h hk other
      exact Sealed.unlock_of_malformed hf h hk other
    · intro found hfound
      rw [hc] at hfound
      cases hfound
      exact Sealed.wellFormed_iff hf
  · have hnone (ciphertext : Sealed) : Contents.ofFile bytes policy ≠ .ok (.sealed ciphertext) :=
      fun hc => hs ⟨ciphertext, hc⟩
    constructor
    · intro password e h _ other
      -- what shows without a password stands for all of them
      rw [Specification.ofFile_of_not_sealed hnone _ (some password) _ .paddingAndStructure]
      exact Or.inl h
    · intro ciphertext h
      exact absurd h (hnone ciphertext)

end Credential.Key
