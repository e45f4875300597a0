import Credential.Proofs.Key.Container

/-!
# Keys behind a password

Decoding a key file in two steps. The first one, `Contents.ofFile`, sees no password: it ends in a
fault, in a key in the clear, or in a ciphertext together with all that its decryption needs but the
password. The second one, `Contents.specification`, looks at the password, and only for a
ciphertext. `Specification.ofFile_eq_contents` says that the two steps are the decoder.

So two runs of the decoder on one file under one policy differ in the second step alone, and what
depends on the password or on the heuristic is what `Sealed.unlock` makes of a ciphertext.
-/

namespace Credential.Key

/-- A ciphertext with what its decryption needs but the password. -/
inductive Sealed where
  | legacy (info : Legacy.DekInfo) (data : Bytes)
  | pbe (scheme : Pbe.Scheme) (params : Pbe.Parameters) (data : Bytes)
  deriving DecidableEq, Repr

namespace Sealed

/-- The ciphertext of a PEM block with headers. -/
def ofLegacy (headers : Pem.Headers) (data : Bytes) (policy : Policy) : Except Error Sealed := do
  if !headers.contains Pem.procType then throw (.missingHeader Pem.procType)
  let info ← Legacy.dekInfoOf headers
  policy.check info.cipher.name info.cipher.keyBits
  return .legacy info data

/-- The ciphertext of an EncryptedPrivateKeyInfo. -/
def ofEncryptedPkcs8 (data : Bytes) (policy : Policy) : Except Error Sealed := do
  let info ← EncryptedPrivateKeyInfo.decode data
  let scheme ← info.scheme
  policy.check scheme.name scheme.keyBits
  let params ← info.parameters
  return .pbe scheme params info.encryptedData

/-- The plaintext under a password. -/
def plaintext (password : Bytes) (heuristic : Heuristic) : Sealed → Except Error Bytes
  | .legacy info data =>
    (info.cipher.decrypt (Legacy.deriveKey password info.salt info.cipher.keyLength)
      info.vector data).mapError heuristic.cipherFailure
  | .pbe scheme params data => scheme.decrypt params password data heuristic

/-- Reads a plaintext as the key that was encrypted. -/
def read (plain : Bytes) : Sealed → Except Error Specification
  | .legacy _ _ => Specification.ofPkcs1 plain
  | .pbe _ _ _ => Specification.ofPkcs8 plain

/-- The specification of the key under a password. -/
def unlock (sealed : Sealed) (password : Bytes) (heuristic : Heuristic) :
    Except Error Specification := do
  let plain ← sealed.plaintext password heuristic
  (sealed.read plain).mapError heuristic.structureFailure

end Sealed

/-- What a key file holds, as far as it can be told without a password. -/
inductive Contents where
  | clear (specification : Specification)
  | sealed (ciphertext : Sealed)
  deriving DecidableEq, Repr

namespace Contents

/-- The contents of a container. -/
def ofContainer (container : Container) (policy : Policy) : Except Error Contents :=
  match container.wrapping with
  | .pkcs1 => (Specification.ofPkcs1 container.data).map .clear
  | .legacy headers => (Sealed.ofLegacy headers container.data policy).map .sealed
  | .pkcs8 => (Specification.ofPkcs8 container.data).map .clear
  | .encryptedPkcs8 => (Sealed.ofEncryptedPkcs8 container.data policy).map .sealed

/-- The contents of a key file. -/
def ofFile (bytes : Bytes) (policy : Policy) : Except Error Contents :=
  (Container.ofFile bytes).bind fun container => ofContainer container policy

/-- The specification of the key for a password, if there is one. -/
def specification (password : Option Bytes) (heuristic : Heuristic) :
    Contents → Except Error Specification
  | .clear specification => .ok specification
  | .sealed ciphertext =>
    match password with
    | none => .error .noPasswordProvided
    | some password => ciphertext.unlock password heuristic

end Contents

/-! ## The decoder in two steps -/

theorem Specification.ofLegacy_eq (headers : Pem.Headers) (data : Bytes)
    (password : Option Bytes) (options : Options) :
    Specification.ofLegacy headers data password options =
      (Sealed.ofLegacy headers data options.policy).bind fun ciphertext =>
        (Contents.sealed ciphertext).specification password options.heuristic := by
  unfold Specification.ofLegacy Legacy.decrypt Sealed.ofLegacy
  cases headers.contains Pem.procType with
  | false => rfl
  | true =>
      cases Legacy.dekInfoOf headers with
      | error e => rfl
      | ok info =>
          dsimp only [bind, Except.bind]
          cases options.policy.check info.cipher.name info.cipher.keyBits with
          | error e => rfl
          | ok _ => cases password <;> rfl

theorem Specification.ofEncryptedPkcs8_eq (data : Bytes) (password : Option Bytes)
    (options : Options) :
    Specification.ofEncryptedPkcs8 data password options =
      (Sealed.ofEncryptedPkcs8 data options.policy).bind fun ciphertext =>
        (Contents.sealed ciphertext).specification password options.heuristic := by
  unfold Specification.ofEncryptedPkcs8 EncryptedPrivateKeyInfo.decrypt Sealed.ofEncryptedPkcs8
  cases EncryptedPrivateKeyInfo.decode data with
  | error e => rfl
  | ok info =>
      dsimp only [bind, Except.bind]
      cases info.scheme with
      | error e => rfl
      | ok scheme =>
          dsimp only
          cases options.policy.check scheme.name scheme.keyBits with
          | error e => rfl
          | ok _ =>
              dsimp only
              cases info.parameters with
              | error e => rfl
              | ok params => cases password <;> rfl

theorem Container.specification_eq (container : Container) (password : Option Bytes)
    (options : Options) :
    container.specification password options =
      (Contents.ofContainer container options.policy).bind fun contents =>
        contents.specification password options.heuristic := by
  unfold Container.specification Contents.ofContainer
  cases container.wrapping with
  | pkcs1 => cases Specification.ofPkcs1 container.data <;> rfl
  | legacy headers =>
      dsimp only
      rw [Specification.ofLegacy_eq]
      cases Sealed.ofLegacy headers container.data options.policy <;> rfl
  | pkcs8 => cases Specification.ofPkcs8 container.data <;> rfl
  | encryptedPkcs8 =>
      dsimp only
      rw [Specification.ofEncryptedPkcs8_eq]
      cases Sealed.ofEncryptedPkcs8 container.data options.policy <;> rfl

/-- Decoding a key file is finding its contents, for which no password is needed, and then looking
at the password if they are a ciphertext. -/
theorem Specification.ofFile_eq_contents (bytes : Bytes) (password : Option Bytes)
    (options : Options) :
    Specification.ofFile bytes password options =
      (Contents.ofFile bytes options.policy).bind fun contents =>
        contents.specification password options.heuristic := by
  rw [Specification.ofFile_eq]
  unfold Contents.ofFile
  cases Container.ofFile bytes with
  | error e => rfl
  | ok container => exact Container.specification_eq container password options

/-! ## What a ciphertext has passed -/

/-- The ciphertext of a block with headers has passed its headers and the policy. -/
theorem Sealed.ofLegacy_eq_ok_iff (headers : Pem.Headers) (data : Bytes) (policy : Policy)
    (ciphertext : Sealed) :
    Sealed.ofLegacy headers data policy = .ok ciphertext ↔
      headers.contains Pem.procType = true ∧ ∃ info, Legacy.dekInfoOf headers = .ok info ∧
        policy.check info.cipher.name info.cipher.keyBits = .ok () ∧
        ciphertext = .legacy info data := by
  unfold Sealed.ofLegacy
  cases headers.contains Pem.procType with
  | false =>
      constructor
      · intro h
        cases h
      · rintro ⟨h, -⟩
        cases h
  | true =>
      simp only [Bool.not_true, Bool.false_eq_true, ↓reduceIte, bind_eq_ok_iff, pure, Except.pure,
        Except.ok.injEq, true_and]
      constructor
      · rintro ⟨info, hi, _, hc, rfl⟩
        exact ⟨info, hi, hc, rfl⟩
      · rintro ⟨info, hi, hc, rfl⟩
        exact ⟨info, hi, (), hc, rfl⟩

/-- The ciphertext of an EncryptedPrivateKeyInfo has passed its scheme, the policy and the
parameters of the scheme. -/
theorem Sealed.ofEncryptedPkcs8_eq_ok_iff (data : Bytes) (policy : Policy) (ciphertext : Sealed) :
    Sealed.ofEncryptedPkcs8 data policy = .ok ciphertext ↔
      ∃ info scheme params, EncryptedPrivateKeyInfo.decode data = .ok info ∧
        info.scheme = .ok scheme ∧ policy.check scheme.name scheme.keyBits = .ok () ∧
        info.parameters = .ok params ∧ ciphertext = .pbe scheme params info.encryptedData := by
  unfold Sealed.ofEncryptedPkcs8
  simp only [bind_eq_ok_iff, pure, Except.pure, Except.ok.injEq]
  constructor
  · rintro ⟨info, hd, scheme, hs, _, hc, params, hp, rfl⟩
    exact ⟨info, scheme, params, hd, hs, hc, hp, rfl⟩
  · rintro ⟨info, scheme, params, hd, hs, hc, hp, rfl⟩
    exact ⟨info, hd, scheme, hs, (), hc, params, hp, rfl⟩

/-- A key in the clear stands in a container of its structure. -/
theorem Contents.ofContainer_eq_clear_iff (container : Container) (policy : Policy)
    (specification : Specification) :
    Contents.ofContainer container policy = .ok (.clear specification) ↔
      container.wrapping = .pkcs1 ∧ Specification.ofPkcs1 container.data = .ok specification ∨
      container.wrapping = .pkcs8 ∧ Specification.ofPkcs8 container.data = .ok specification := by
  unfold Contents.ofContainer
  cases container.wrapping with
  | pkcs1 => cases Specification.ofPkcs1 container.data <;> simp [Except.map]
  | legacy headers =>
      dsimp only
      cases Sealed.ofLegacy headers container.data policy <;> simp [Except.map]
  | pkcs8 => cases Specification.ofPkcs8 container.data <;> simp [Except.map]
  | encryptedPkcs8 =>
      dsimp only
      cases Sealed.ofEncryptedPkcs8 container.data policy <;> simp [Except.map]

/-- A ciphertext stands in a block with headers or in an EncryptedPrivateKeyInfo. -/
theorem Contents.ofContainer_eq_sealed_iff (container : Container) (policy : Policy)
    (ciphertext : Sealed) :
    Contents.ofContainer container policy = .ok (.sealed ciphertext) ↔
      (∃ headers, container.wrapping = .legacy headers ∧
        Sealed.ofLegacy headers container.data policy = .ok ciphertext) ∨
      container.wrapping = .encryptedPkcs8 ∧
        Sealed.ofEncryptedPkcs8 container.data policy = .ok ciphertext := by
  unfold Contents.ofContainer
  cases container.wrapping with
  | pkcs1 => cases Specification.ofPkcs1 container.data <;> simp [Except.map]
  | legacy headers =>
      dsimp only
      cases hl : Sealed.ofLegacy headers container.data policy <;> simp [Except.map, hl]
  | pkcs8 => cases Specification.ofPkcs8 container.data <;> simp [Except.map]
  | encryptedPkcs8 =>
      dsimp only
      cases Sealed.ofEncryptedPkcs8 container.data policy <;> simp [Except.map]

/-- A plaintext that is read as a key was decrypted and has passed the reader. -/
theorem Sealed.read_of_unlock {ciphertext : Sealed} {password : Bytes} {heuristic : Heuristic}
    {specification : Specification}
    (h : ciphertext.unlock password heuristic = .ok specification) :
    ∃ plain, ciphertext.plaintext password heuristic = .ok plain ∧
      ciphertext.read plain = .ok specification := by
  obtain ⟨plain, hp, hr⟩ := bind_eq_ok_iff.1 h
  refine ⟨plain, hp, ?_⟩
  cases hread : ciphertext.read plain with
  | error e =>
      rw [hread] at hr
      cases hr
  | ok read =>
      rw [hread] at hr
      exact hr

/-! ## Faults of the first step -/

/-- A cause that shows without a password: one of reading, or a cipher key above the limit. -/
def Error.IsSealed (e : Error) : Prop := e.IsReading ∨ e.kind = .keyTooLarge

theorem Error.kind_of_isSealed {e : Error} (h : e.IsSealed) : e.kind ∈ Kind.ofSealed := by
  rcases h with h | h
  · have hk := Error.kind_of_isReading h
    simp only [Kind.ofClear, List.mem_cons, List.not_mem_nil, or_false] at hk
    rcases hk with hk | hk <;> simp [hk, Kind.ofSealed]
  · simp [h, Kind.ofSealed]

/-- A stage that only reads has no fault that needs a password to show. -/
theorem Faults.ofReading {α : Type} {r : Except Error α} (h : Faults Error.IsReading r) :
    Faults Error.IsSealed r :=
  h.mono fun _ => Or.inl

theorem Policy.faults_check (policy : Policy) (cipher : String) (bits : Nat) :
    Faults Error.IsSealed (policy.check cipher bits) := by
  unfold Policy.check
  split
  · split
    · exact faults_error (Or.inr rfl)
    · exact faults_ok _
  · exact faults_ok _

theorem Legacy.Cipher.faults_ofName (name : String) :
    Faults Error.IsReading (Legacy.Cipher.ofName name) := by
  unfold Legacy.Cipher.ofName
  split
  · exact faults_ok _
  · exact faults_error trivial

theorem Legacy.DekInfo.faults_checkVector (cipher : Legacy.Cipher) (vector : Bytes) :
    Faults Error.IsReading (Legacy.DekInfo.checkVector cipher vector) := by
  unfold Legacy.DekInfo.checkVector
  split
  · exact faults_error trivial
  · split
    · exact faults_ok _
    · split
      · exact faults_ok _
      · exact faults_error trivial

theorem Legacy.DekInfo.faults_ofText (s : String) :
    Faults Error.IsReading (Legacy.DekInfo.ofText s) := by
  unfold Legacy.DekInfo.ofText
  split
  · exact faults_error trivial
  · refine (Legacy.Cipher.faults_ofName _).bind fun cipher => ?_
    refine (faults_mapError _ fun _ => by simp [Error.IsReading]).bind fun vector => ?_
    exact (Legacy.DekInfo.faults_checkVector cipher vector).bind fun _ => faults_pure _

theorem Legacy.faults_dekInfoOf (headers : Pem.Headers) :
    Faults Error.IsReading (Legacy.dekInfoOf headers) := by
  unfold Legacy.dekInfoOf
  split
  · exact faults_error trivial
  · exact Legacy.DekInfo.faults_ofText _

theorem Sealed.faults_ofLegacy (headers : Pem.Headers) (data : Bytes) (policy : Policy) :
    Faults Error.IsSealed (Sealed.ofLegacy headers data policy) := by
  unfold Sealed.ofLegacy
  dsimp only
  split
  · exact faults_throw_bind (by simp [Error.IsSealed, Error.IsReading]) _
  · refine (Legacy.faults_dekInfoOf headers).ofReading.bind fun info => ?_
    exact (policy.faults_check _ _).bind fun _ => faults_pure _

theorem Pbe.Scheme.faults_ofOid (oid : Der.ObjectIdentifier) :
    Faults Error.IsReading (Pbe.Scheme.ofOid oid) := by
  unfold Pbe.Scheme.ofOid
  split
  · exact faults_error trivial
  · split
    · exact faults_ok _
    · exact faults_error trivial

theorem Pbe.Parameters.faults_decode (data : Bytes) :
    Faults Error.IsReading (Pbe.Parameters.decode data) := by
  unfold Pbe.Parameters.decode
  refine (faults_der _).bind fun content => ?_
  refine (faults_der _).bind fun ⟨salt, rest⟩ => ?_
  refine (faults_der _).bind fun ⟨iterationCount, rest⟩ => ?_
  exact (faults_der _).bind fun _ => faults_pure _

theorem EncryptedPrivateKeyInfo.faults_decode (data : Bytes) :
    Faults Error.IsReading (EncryptedPrivateKeyInfo.decode data) := by
  unfold EncryptedPrivateKeyInfo.decode
  refine (faults_der _).bind fun content => ?_
  refine (faults_der _).bind fun ⟨identifier, rest⟩ => ?_
  refine (AlgorithmIdentifier.faults_decode identifier).bind fun encryption => ?_
  refine (faults_der _).bind fun ⟨encryptedData, rest⟩ => ?_
  exact (faults_der _).bind fun _ => faults_pure _

theorem EncryptedPrivateKeyInfo.faults_parameters (info : EncryptedPrivateKeyInfo) :
    Faults Error.IsReading info.parameters := by
  unfold EncryptedPrivateKeyInfo.parameters
  split
  · exact faults_error trivial
  · exact Pbe.Parameters.faults_decode _

theorem Sealed.faults_ofEncryptedPkcs8 (data : Bytes) (policy : Policy) :
    Faults Error.IsSealed (Sealed.ofEncryptedPkcs8 data policy) := by
  unfold Sealed.ofEncryptedPkcs8
  refine (EncryptedPrivateKeyInfo.faults_decode data).ofReading.bind fun info => ?_
  refine (Pbe.Scheme.faults_ofOid _).ofReading.bind fun scheme => ?_
  refine (policy.faults_check _ _).bind fun _ => ?_
  exact info.faults_parameters.ofReading.bind fun params => faults_pure _

theorem Contents.faults_ofContainer (container : Container) (policy : Policy) :
    Faults Error.IsSealed (Contents.ofContainer container policy) := by
  unfold Contents.ofContainer
  split
  · exact (Specification.faults_ofPkcs1 _).ofReading.map _
  · exact (Sealed.faults_ofLegacy _ _ _).map _
  · exact (Specification.faults_ofPkcs8 _).ofReading.map _
  · exact (Sealed.faults_ofEncryptedPkcs8 _ _).map _

theorem Contents.faults_ofFile (bytes : Bytes) (policy : Policy) :
    Faults Error.IsSealed (Contents.ofFile bytes policy) :=
  (Container.faults_ofFile bytes).ofReading.bind fun container =>
    Contents.faults_ofContainer container policy

theorem Contents.faultsIn_ofContainer (container : Container) (policy : Policy) :
    FaultsIn Kind.ofSealed (Contents.ofContainer container policy) :=
  (Contents.faults_ofContainer container policy).mono fun _ => Error.kind_of_isSealed

/-- What is found without a password is at fault for itself or for the policy. -/
theorem Contents.faultsIn_ofFile (bytes : Bytes) (policy : Policy) :
    FaultsIn Kind.ofSealed (Contents.ofFile bytes policy) :=
  (Contents.faults_ofFile bytes policy).mono fun _ => Error.kind_of_isSealed

/-! ## Faults of the second step -/

theorem Heuristic.kind_cipherFailure (heuristic : Heuristic) (cause : Cipher.Error) :
    (heuristic.cipherFailure cause).kind ∈ Kind.ofOpened := by
  cases heuristic <;> cases cause <;>
    simp [Heuristic.cipherFailure, Error.kind, Kind.ofOpened]

theorem Pbe.Parameters.faults_iterations (params : Pbe.Parameters) :
    Faults Error.IsReading params.iterations := by
  unfold Pbe.Parameters.iterations
  split
  · exact faults_ok _
  · exact faults_error trivial

/-- A cause of reading, with a password at hand. -/
theorem Error.kind_ofOpened {e : Error} (h : e.IsReading) : e.kind ∈ Kind.ofOpened := by
  have hk := Error.kind_of_isReading h
  simp only [Kind.ofClear, List.mem_cons, List.not_mem_nil, or_false] at hk
  rcases hk with hk | hk <;> simp [hk, Kind.ofOpened]

theorem Pbe.Scheme.faultsIn_decrypt (scheme : Pbe.Scheme) (params : Pbe.Parameters)
    (password data : Bytes) (heuristic : Heuristic) :
    FaultsIn Kind.ofOpened (scheme.decrypt params password data heuristic) := by
  unfold Pbe.Scheme.decrypt
  refine (params.faults_iterations.mono fun _ => Error.kind_ofOpened).bind fun iterations => ?_
  split
  · exact faults_error (by simp [Error.kind, Kind.ofOpened])
  · exact faults_mapError _ heuristic.kind_cipherFailure

theorem Sealed.faultsIn_plaintext (ciphertext : Sealed) (password : Bytes)
    (heuristic : Heuristic) :
    FaultsIn Kind.ofOpened (ciphertext.plaintext password heuristic) := by
  cases ciphertext with
  | legacy info data => exact faults_mapError _ heuristic.kind_cipherFailure
  | pbe scheme params data => exact scheme.faultsIn_decrypt params password data heuristic

theorem Sealed.faults_read (ciphertext : Sealed) (plain : Bytes) :
    Faults Error.IsReading (ciphertext.read plain) := by
  cases ciphertext with
  | legacy info data => exact Specification.faults_ofPkcs1 plain
  | pbe scheme params data => exact Specification.faults_ofPkcs8 plain

/-- The heuristic turns malformed keys into wrong passwords and leaves every other fault. -/
theorem Heuristic.kind_structureFailure (heuristic : Heuristic) {cause : Error}
    (h : cause.kind ∈ Kind.ofClear) :
    (heuristic.structureFailure cause).kind ∈ Kind.ofOpened := by
  unfold Heuristic.structureFailure
  split
  · simp [Error.kind, Kind.ofOpened]
  · simp only [Kind.ofClear, List.mem_cons, List.not_mem_nil, or_false] at h
    rcases h with h | h <;> simp [h, Kind.ofOpened]

/-- A ciphertext with a password is at fault for itself or for the password, and never for a
missing one. -/
theorem Sealed.faultsIn_unlock (ciphertext : Sealed) (password : Bytes) (heuristic : Heuristic) :
    FaultsIn Kind.ofOpened (ciphertext.unlock password heuristic) := by
  refine (ciphertext.faultsIn_plaintext password heuristic).bind fun plain => ?_
  intro e he
  cases hr : ciphertext.read plain with
  | error cause =>
      rw [hr] at he
      cases he
      exact heuristic.kind_structureFailure ((ciphertext.faults_read plain).ofClear cause hr)
  | ok specification =>
      rw [hr] at he
      cases he

end Credential.Key
