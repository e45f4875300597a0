import Credential.Proofs.Key.DerivedLength
import Credential.Proofs.Key.Inspection

/-!
# The key-size limit

A policy does one thing to the decoding of a key file: it refuses the cipher that the file names if
its key is above the limit (`Specification.isGated_ofFile`). The cipher is read off the file without
the password and without the heuristic (`NamedCipher.ofFile?`), after everything that says which
cipher it is and before anything else is looked at. So a refusal depends on the file and the limit
alone, and a run that is not refused is the run without a limit (`key_size_limit_is_gate`).
-/

namespace Credential.Key

variable {α β : Type}

/-- A cipher that a key file names: the one of a block with headers, or a password-based scheme. -/
inductive NamedCipher where
  | legacy (cipher : Legacy.Cipher)
  | pbe (scheme : Pbe.Scheme)
  deriving DecidableEq, Repr

namespace NamedCipher

/-- The name of a cipher. -/
def name : NamedCipher → String
  | .legacy cipher => cipher.name
  | .pbe scheme => scheme.name

/-- The size of its key in bits. -/
def keyBits : NamedCipher → Nat
  | .legacy cipher => cipher.keyBits
  | .pbe scheme => scheme.keyBits

end NamedCipher

/-- The cipher that a container names. A block with headers names one only as an encrypted block. -/
def Container.cipher? (container : Container) : Option NamedCipher :=
  match container.wrapping with
  | .pkcs1 | .pkcs8 => none
  | .legacy headers =>
    if headers.contains Pem.procType then
      (Legacy.dekInfoOf headers).toOption.map fun info => .legacy info.cipher
    else none
  | .encryptedPkcs8 =>
    (EncryptedPrivateKeyInfo.decode container.data >>= EncryptedPrivateKeyInfo.scheme).toOption.map
      .pbe

/-- The cipher that a key file names. -/
def NamedCipher.ofFile? (bytes : Bytes) : Option NamedCipher :=
  (Container.ofFile bytes).toOption.bind Container.cipher?

namespace Sealed

/-- The cipher that a ciphertext is decrypted with. -/
def cipher : Sealed → NamedCipher
  | .legacy info _ => .legacy info.cipher
  | .pbe scheme _ _ => .pbe scheme

/-- The key that a ciphertext is decrypted with, if the password has an encoding. -/
def key? (password : Bytes) : Sealed → Option Bytes
  | .legacy info _ => some (Legacy.deriveKey password info.salt info.cipher.keyLength)
  | .pbe scheme params _ => (scheme.derive? password params.salt params.iterationCount).map Prod.fst

end Sealed

/-- The check of a policy, for a file that names a cipher or none. -/
def Policy.admit (policy : Policy) : Option NamedCipher → Except Error Unit
  | none => .ok ()
  | some cipher => policy.check cipher.name cipher.keyBits

/-! ## Gates -/

/-- A run over policies that the policy affects by its check of one cipher only. Apart from that
check, no key is too large. -/
structure IsGated (cipher? : Option NamedCipher) (run : Policy → Except Error α) : Prop where
  gate : ∀ policy, run policy = policy.admit cipher? >>= fun _ => run {}
  unlimited : Faults (fun e => e.kind ≠ .keyTooLarge) (run {})

namespace IsGated

variable {cipher? : Option NamedCipher} {run : Policy → Except Error α}

/-- No limit admits every cipher. -/
theorem admit_unlimited (cipher? : Option NamedCipher) : Policy.admit {} cipher? = .ok () := by
  cases cipher? <;> rfl

theorem admit_of_lt {cipher : NamedCipher} {limit : Nat} (h : limit < cipher.keyBits) :
    Policy.admit ⟨some limit⟩ (some cipher) =
      .error (.keyTooLarge cipher.name cipher.keyBits limit) :=
  if_pos h

theorem of_eq {r : Except Error α} (hr : Faults Error.IsReading r)
    (h : ∀ policy, run policy = policy.admit cipher? >>= fun _ => r) : IsGated cipher? run := by
  have hrun : run {} = r := by
    rw [h, admit_unlimited]
    rfl
  constructor
  · intro policy
    rw [hrun]
    exact h policy
  · rw [hrun]
    exact hr.mono fun e he hk => by
      have hclear := Error.kind_of_isReading he
      simp [hk, Kind.ofClear] at hclear

/-- A run that no policy affects. -/
theorem of_const {r : Except Error α} (hr : Faults Error.IsReading r) :
    IsGated none fun _ => r :=
  of_eq hr fun _ => rfl

/-- What comes after the gate does not know the policy. -/
theorem bind (h : IsGated cipher? run) {next : α → Except Error β}
    (hn : ∀ a, Faults (fun e => e.kind ≠ .keyTooLarge) (next a)) :
    IsGated cipher? fun policy => run policy >>= next where
  gate := by
    intro policy
    rw [h.gate policy, bind_assoc]
  unlimited := h.unlimited.bind hn

theorem map (h : IsGated cipher? run) (f : α → β) :
    IsGated cipher? fun policy => (run policy).map f where
  gate := by
    intro policy
    rw [h.gate policy]
    cases policy.admit cipher? <;> rfl
  unlimited := h.unlimited.map f

/-- A run ends as without a limit, or its cipher is refused. -/
theorem cases (h : IsGated cipher? run) (limit : Nat) :
    run ⟨some limit⟩ = run {} ∨ ∃ cipher, cipher? = some cipher ∧ limit < cipher.keyBits ∧
      run ⟨some limit⟩ = .error (.keyTooLarge cipher.name cipher.keyBits limit) := by
  rw [h.gate]
  cases cipher? with
  | none => exact Or.inl rfl
  | some cipher =>
      by_cases hlimit : limit < cipher.keyBits
      · refine Or.inr ⟨cipher, rfl, hlimit, ?_⟩
        rw [admit_of_lt hlimit]
        rfl
      · have hcheck : Policy.admit ⟨some limit⟩ (some cipher) = .ok () := if_neg hlimit
        rw [hcheck]
        exact Or.inl rfl

/-- A key is too large exactly if the cipher is one with a larger key than the limit. -/
theorem keyTooLarge_iff (h : IsGated cipher? run) {policy : Policy} {name : String}
    {bits limit : Nat} : run policy = .error (.keyTooLarge name bits limit) ↔
      policy.limit = some limit ∧ limit < bits ∧
        ∃ cipher, cipher? = some cipher ∧ cipher.name = name ∧ cipher.keyBits = bits := by
  obtain ⟨bound⟩ := policy
  cases bound with
  | none =>
      constructor
      · intro hrun
        exact absurd rfl (h.unlimited _ hrun)
      · rintro ⟨hlimit, -⟩
        cases hlimit
  | some bound =>
      constructor
      · intro hrun
        rcases h.cases bound with heq | ⟨cipher, hc, hlt, heq⟩
        · rw [heq] at hrun
          exact absurd rfl (h.unlimited _ hrun)
        · rw [heq] at hrun
          cases hrun
          exact ⟨rfl, hlt, cipher, hc, rfl, rfl⟩
      · rintro ⟨hlimit, hlt, cipher, rfl, rfl, rfl⟩
        cases hlimit
        rw [h.gate, admit_of_lt hlt]
        rfl

end IsGated

/-! ## The gate of each structure -/

theorem Sealed.isGated_ofLegacy (container : Container) {headers : Pem.Headers}
    (hw : container.wrapping = .legacy headers) :
    IsGated container.cipher? fun policy => Sealed.ofLegacy headers container.data policy := by
  unfold Container.cipher? Sealed.ofLegacy
  rw [hw]
  dsimp only
  cases headers.contains Pem.procType with
  | false =>
      have hmissing : Faults (α := Sealed) Error.IsReading
          (.error (.missingHeader Pem.procType)) := faults_error trivial
      exact .of_const hmissing
  | true =>
      cases hd : Legacy.dekInfoOf headers with
      | error cause => exact .of_const (faults_error (Legacy.faults_dekInfoOf headers cause hd))
      | ok info => exact .of_eq (faults_ok (Sealed.legacy info container.data)) fun _ => rfl

theorem Sealed.isGated_ofEncryptedPkcs8 (container : Container)
    (hw : container.wrapping = .encryptedPkcs8) :
    IsGated container.cipher? fun policy => Sealed.ofEncryptedPkcs8 container.data policy := by
  unfold Container.cipher? Sealed.ofEncryptedPkcs8
  rw [hw]
  dsimp only
  cases hd : EncryptedPrivateKeyInfo.decode container.data with
  | error cause =>
      exact .of_const (faults_error (EncryptedPrivateKeyInfo.faults_decode _ cause hd))
  | ok info =>
      dsimp only [bind, Except.bind]
      cases hs : info.scheme with
      | error cause => exact .of_const (faults_error (Pbe.Scheme.faults_ofOid _ cause hs))
      | ok scheme =>
          exact .of_eq (info.faults_parameters.bind fun params =>
            faults_ok (Sealed.pbe scheme params info.encryptedData)) fun _ => rfl

theorem Contents.isGated_ofContainer (container : Container) :
    IsGated container.cipher? fun policy => Contents.ofContainer container policy := by
  unfold Contents.ofContainer
  cases hw : container.wrapping with
  | pkcs1 =>
      have hc : container.cipher? = none := by
        unfold Container.cipher?
        rw [hw]
      rw [hc]
      exact (IsGated.of_const (Specification.faults_ofPkcs1 _)).map _
  | legacy headers => exact (Sealed.isGated_ofLegacy container hw).map _
  | pkcs8 =>
      have hc : container.cipher? = none := by
        unfold Container.cipher?
        rw [hw]
      rw [hc]
      exact (IsGated.of_const (Specification.faults_ofPkcs8 _)).map _
  | encryptedPkcs8 => exact (Sealed.isGated_ofEncryptedPkcs8 container hw).map _

theorem Contents.isGated_ofFile (bytes : Bytes) :
    IsGated (NamedCipher.ofFile? bytes) fun policy => Contents.ofFile bytes policy := by
  unfold NamedCipher.ofFile? Contents.ofFile
  cases hf : Container.ofFile bytes with
  | error cause => exact .of_const (faults_error (Container.faults_ofFile bytes cause hf))
  | ok container => exact Contents.isGated_ofContainer container

/-- No password makes a key too large. -/
theorem Contents.kind_specification_ne (contents : Contents) (password : Option Bytes)
    (heuristic : Heuristic) :
    Faults (fun e => e.kind ≠ .keyTooLarge) (contents.specification password heuristic) := by
  cases contents with
  | clear specification => exact faults_ok _
  | sealed ciphertext =>
      cases password with
      | none => exact faults_error (by simp [Error.kind])
      | some password =>
          refine (ciphertext.faultsIn_unlock password heuristic).mono fun e he hk => ?_
          simp [hk, Kind.ofOpened] at he

/-- A policy does nothing to the decoding of a file but to check the cipher that the file names. -/
theorem Specification.isGated_ofFile (bytes : Bytes) (password : Option Bytes)
    (heuristic : Heuristic) : IsGated (NamedCipher.ofFile? bytes) fun policy =>
      Specification.ofFile bytes password ⟨policy, heuristic⟩ := by
  simp only [Specification.ofFile_eq_contents]
  exact (Contents.isGated_ofFile bytes).bind fun contents =>
    contents.kind_specification_ne password heuristic

/-! ## The cipher that is named -/

/-- A container that names a cipher shows it as its encryption. -/
theorem Container.info_of_cipher? {container : Container} {cipher : NamedCipher}
    (h : container.cipher? = some cipher) :
    ∃ info, container.info = .ok info ∧ info.encryption = some cipher.name := by
  simp only [info_eq_ok_iff]
  unfold Container.cipher? at h
  cases hw : container.wrapping with
  | pkcs1 =>
      rw [hw] at h
      cases h
  | legacy headers =>
      rw [hw] at h
      dsimp only at h
      split at h
      · obtain ⟨info, hi, rfl⟩ := Option.map_eq_some_iff.1 h
        exact ⟨_, .legacy (toOption_eq_some_iff.1 hi), rfl⟩
      · cases h
  | pkcs8 =>
      rw [hw] at h
      cases h
  | encryptedPkcs8 =>
      rw [hw] at h
      obtain ⟨scheme, hs, rfl⟩ := Option.map_eq_some_iff.1 h
      obtain ⟨decoded, hd, hs⟩ := bind_eq_ok_iff.1 (toOption_eq_some_iff.1 hs)
      exact ⟨_, .encryptedPkcs8 hd (Info.schemeName_of_scheme hs), rfl⟩

/-- The cipher that a file names is the one that its ciphertext is decrypted with. -/
theorem Container.cipher?_of_sealed {container : Container} {policy : Policy} {ciphertext : Sealed}
    (h : Contents.ofContainer container policy = .ok (.sealed ciphertext)) :
    container.cipher? = some ciphertext.cipher := by
  unfold Container.cipher?
  rcases (Contents.ofContainer_eq_sealed_iff _ _ _).1 h with ⟨headers, hw, hl⟩ | ⟨hw, hl⟩
  · obtain ⟨hp, info, hd, -, rfl⟩ := (Sealed.ofLegacy_eq_ok_iff _ _ _ _).1 hl
    rw [hw]
    dsimp only
    rw [if_pos hp, hd]
    rfl
  · obtain ⟨info, scheme, params, hd, hs, -, -, rfl⟩ :=
      (Sealed.ofEncryptedPkcs8_eq_ok_iff _ _ _).1 hl
    rw [hw, hd]
    dsimp only [bind, Except.bind]
    rw [hs]
    rfl

/-- The key of a ciphertext has the size of the cipher's keys. -/
theorem Sealed.keyBits_of_key? {ciphertext : Sealed} {password key : Bytes}
    (h : ciphertext.key? password = some key) : key.length * 8 = ciphertext.cipher.keyBits := by
  cases ciphertext with
  | legacy info data =>
      cases h
      exact congrArg (· * 8) (Legacy.length_deriveKey _ _ _)
  | pbe scheme params data =>
      obtain ⟨⟨derived, vector⟩, hd, rfl⟩ := Option.map_eq_some_iff.1 h
      exact congrArg (· * 8) (Pbe.Scheme.lengths_of_derive? hd).1

/-! ## Main result -/

/-- The key-size limit is a gate. A run under a limit is the run without one, or the cipher that the
file names is refused, whose key is above the limit. A refusal is of a file that shows the cipher as
its encryption; it is repeated for every password, every heuristic and every limit below the size of
the key, and there is none for the limits from that size on. What is decoded under a limit is
decoded to the same under every larger one. The named cipher is the one that decrypts the file, with
keys of the reported size. -/
theorem key_size_limit_is_gate (bytes : Bytes) :
    (∀ password heuristic limit,
      Specification.ofFile bytes password ⟨⟨some limit⟩, heuristic⟩ =
          Specification.ofFile bytes password ⟨{}, heuristic⟩ ∨
        ∃ cipher, NamedCipher.ofFile? bytes = some cipher ∧ limit < cipher.keyBits ∧
          Specification.ofFile bytes password ⟨⟨some limit⟩, heuristic⟩ =
            .error (.keyTooLarge cipher.name cipher.keyBits limit)) ∧
    (∀ password policy heuristic name bits limit,
      Specification.ofFile bytes password ⟨policy, heuristic⟩ =
          .error (.keyTooLarge name bits limit) →
        policy.limit = some limit ∧ limit < bits ∧
        (∃ info, Info.ofFile bytes = .ok info ∧ info.encryption = some name) ∧
        ∀ other password' heuristic',
          (other < bits →
            Specification.ofFile bytes password' ⟨⟨some other⟩, heuristic'⟩ =
              .error (.keyTooLarge name bits other)) ∧
          (bits ≤ other → ∀ name' bits' limit',
            Specification.ofFile bytes password' ⟨⟨some other⟩, heuristic'⟩ ≠
              .error (.keyTooLarge name' bits' limit'))) ∧
    (∀ password heuristic limit specification,
      Specification.ofFile bytes password ⟨⟨some limit⟩, heuristic⟩ = .ok specification →
        Specification.ofFile bytes password ⟨{}, heuristic⟩ = .ok specification ∧
        ∀ larger, limit ≤ larger →
          Specification.ofFile bytes password ⟨⟨some larger⟩, heuristic⟩ = .ok specification) ∧
    (∀ policy ciphertext, Contents.ofFile bytes policy = .ok (.sealed ciphertext) →
      NamedCipher.ofFile? bytes = some ciphertext.cipher ∧
      ∀ password key, ciphertext.key? password = some key →
        key.length * 8 = ciphertext.cipher.keyBits) := by
  have hgated (password : Option Bytes) (heuristic : Heuristic) :=
    Specification.isGated_ofFile bytes password heuristic
  refine ⟨?_, ?_, ?_, ?_⟩
  · intro password heuristic limit
    exact (hgated password heuristic).cases limit
  · intro password policy heuristic name bits limit h
    obtain ⟨hlimit, hlt, cipher, hc, hname, hbits⟩ :=
      (hgated password heuristic).keyTooLarge_iff.1 h
    refine ⟨hlimit, hlt, ?_, ?_⟩
    · obtain ⟨container, hf, hnamed⟩ := Option.bind_eq_some_iff.1 hc
      obtain ⟨info, hi, he⟩ := Container.info_of_cipher? hnamed
      refine ⟨info, ?_, hname ▸ he⟩
      rw [Info.ofFile_eq]
      exact bind_eq_ok_iff.2 ⟨container, toOption_eq_some_iff.1 hf, hi⟩
    · intro other password' heuristic'
      constructor
      · intro hother
        exact (hgated password' heuristic').keyTooLarge_iff.2
          ⟨rfl, hother, cipher, hc, hname, hbits⟩
      · intro hother name' bits' limit' hrefused
        obtain ⟨hlimit', hlt', cipher', hc', -, hbits'⟩ :=
          (hgated password' heuristic').keyTooLarge_iff.1 hrefused
        -- a file names one cipher
        cases hlimit'
        rw [hc] at hc'
        cases hc'
        omega
  · intro password heuristic limit specification h
    have hunlimited : Specification.ofFile bytes password ⟨{}, heuristic⟩ = .ok specification := by
      rcases (hgated password heuristic).cases limit with heq | ⟨cipher, -, -, hrefused⟩
      · exact heq.symm.trans h
      · cases hrefused.symm.trans h
    refine ⟨hunlimited, ?_⟩
    intro larger hle
    rcases (hgated password heuristic).cases larger with heq | ⟨cipher, hc, hlt, -⟩
    · exact heq.trans hunlimited
    · -- what the larger limit refuses, the smaller one refuses
      have hrefused : Specification.ofFile bytes password ⟨⟨some limit⟩, heuristic⟩ =
          .error (.keyTooLarge cipher.name cipher.keyBits limit) :=
        (hgated password heuristic).keyTooLarge_iff.2
          ⟨rfl, Nat.lt_of_le_of_lt hle hlt, cipher, hc, rfl, rfl⟩
      cases hrefused.symm.trans h
  · intro policy ciphertext h
    obtain ⟨container, hf, hcontainer⟩ := bind_eq_ok_iff.1 h
    refine ⟨?_, fun _ _ => Sealed.keyBits_of_key?⟩
    exact Option.bind_eq_some_iff.2
      ⟨container, toOption_eq_some_iff.2 hf, Container.cipher?_of_sealed hcontainer⟩

/-- A DES key of 64 bits under two limits. The file has no parameters, which is not looked at. -/
theorem key_size_limit_is_gate_des :
    Specification.ofFile [0x30, 15, 0x30, 11, 6, 9, 42, 134, 72, 134, 247, 13, 1, 5, 3, 4, 0] none
        ⟨⟨some 56⟩, .off⟩ = .error (.keyTooLarge "pbeWithMD5AndDES-CBC" 64 56) ∧
      Specification.ofFile [0x30, 15, 0x30, 11, 6, 9, 42, 134, 72, 134, 247, 13, 1, 5, 3, 4, 0]
        (some [0x70]) ⟨⟨some 63⟩, .paddingOnly⟩ =
          .error (.keyTooLarge "pbeWithMD5AndDES-CBC" 64 63) := by
  have h : Specification.ofFile
      [0x30, 15, 0x30, 11, 6, 9, 42, 134, 72, 134, 247, 13, 1, 5, 3, 4, 0] none ⟨⟨some 56⟩, .off⟩ =
      .error (.keyTooLarge "pbeWithMD5AndDES-CBC" 64 56) := rfl
  obtain ⟨-, -, -, hall⟩ := (key_size_limit_is_gate _).2.1 _ _ _ _ _ _ h
  exact ⟨h, (hall 63 (some [0x70]) .paddingOnly).1 (by decide)⟩

end Credential.Key
