import Credential.Proofs.Key.PasswordPass
import Credential.Proofs.Store.Environment

/-!
# One attempt at a load

Everything that one attempt can do, as a relation between the events that it adds and its outcome
(`Attempted`): the key file is read and its permissions are looked at; the key is decoded, for which
the callback may be asked once (`Proves`); and the certificates are read (`Completes`). Every run of
`tryLoad` is of this form (`attempted_of_ends`).
-/

namespace Credential.Store

open Calendar (Timestamp)
open Host (FileError Permissions)

variable {config : Config} {protection : Protection} {attempt : Nat} {material : Bytes}
  {events : List Event}

/-! ## Faults to be tried again -/

/-- Only a wrong password is tried again. -/
theorem LoadError.isRetryable_iff (cause : LoadError) :
    cause.kind.isRetryable = true ↔ cause = .key .badPassword := by
  cases cause with
  | key cause => cases cause <;> simp [LoadError.kind, Kind.isRetryable, Key.Error.kind,
      Key.Kind.isRetryable]
  | certificate cause => cases cause <;> simp [LoadError.kind, Kind.isRetryable]
  | file path cause => simp [LoadError.kind, Kind.isRetryable]
  | insecurePermissions path mode => simp [LoadError.kind, Kind.isRetryable]
  | aborted => simp [LoadError.kind, Kind.isRetryable]

/-! ## The stages of an attempt -/

/-- Whether the configuration puts up with what is known of the key file's permissions. -/
def Config.allows (config : Config) : Permissions → Prop
  | .exposed _ => config.requirePrivate = false
  | _ => True

/-- What decoding the key with a password proves. -/
def decoded (config : Config) (material : Bytes) (password : Option Bytes) :
    Outcome LoadError Unit :=
  ((Key.PrivateKey.ofFile material password config.options).mapError .key).map fun _ => ()

/-- What an answer proves. -/
def answered (config : Config) (material : Bytes) : Answer → Outcome LoadError Unit
  | .password octets => decoded config material (some octets)
  | .cancelled => .error (.key .noPasswordProvided)
  | .abandoned => .aborted

/-- The prompt of an attempt. -/
def promptOf (config : Config) (material : Bytes) (attempt : Nat) : Prompt :=
  ⟨config.entryAlias, attempt, config.attempts, shownEncryption material⟩

/-- How an attempt proves that the key decodes: with the fixed password, without one, or with the
answer to a prompt. -/
inductive Proves (config : Config) (attempt : Nat) (material : Bytes) :
    Protection → List Event → Outcome LoadError Unit → Prop
  | fixed (octets : Bytes) :
      Proves config attempt material (.password octets) []
        (decoded config material (fixedPassword octets))
  | free : Key.PrivateKey.ofFile material none config.options ≠ .error .noPasswordProvided →
      Proves config attempt material .interactive [] (decoded config material none)
  | asked (answer : Answer) :
      Key.PrivateKey.ofFile material none config.options = .error .noPasswordProvided →
      Proves config attempt material .interactive
        [.askPassword (promptOf config material attempt) answer] (answered config material answer)

/-- The last stage of an attempt. -/
def loadCertificates (config : Config) (material : Bytes) : Attempt LoadError Entry := do
  let certificates ← loadFile config.certificatePath
  let chain ← Attempt.ofOutcome (.ofExcept ((X509.Chain.ofFile certificates).mapError .certificate))
  let createdAt ← Attempt.now
  return ⟨config.entryAlias, material, chain, createdAt⟩

/-- How an attempt reads the certificates. -/
inductive Certifies (config : Config) (material : Bytes) :
    List Event → Outcome LoadError Entry → Prop
  | unread (cause : FileError) :
      Certifies config material [.readFile config.certificatePath (.error cause)]
        (.error (.file config.certificatePath cause))
  | invalid {bytes : Bytes} {cause : X509.Error} : X509.Chain.ofFile bytes = .error cause →
      Certifies config material [.readFile config.certificatePath (.ok bytes)]
        (.error (.certificate cause))
  | valid {bytes : Bytes} {chain : X509.Chain} (createdAt : Timestamp) :
      X509.Chain.ofFile bytes = .ok chain →
      Certifies config material [.readFile config.certificatePath (.ok bytes), .now createdAt]
        (.ok ⟨config.entryAlias, material, chain, createdAt⟩)

/-- How an attempt goes on once it is known whether the key decodes. -/
inductive Completes (config : Config) (material : Bytes) :
    Outcome LoadError Unit → List Event → Outcome LoadError Entry → Prop
  | unproved (cause : LoadError) : Completes config material (.error cause) [] (.error cause)
  | aborted : Completes config material .aborted [] .aborted
  | proved {certificates : List Event} {outcome : Outcome LoadError Entry} :
      Certifies config material certificates outcome →
      Completes config material (.ok ()) certificates outcome

/-- What an attempt can do: the events that it adds, and its outcome. -/
inductive Attempted (config : Config) (protection : Protection) (attempt : Nat) :
    List Event → Outcome LoadError Entry → Prop
  | unread (cause : FileError) :
      Attempted config protection attempt [.readFile config.keyPath (.error cause)]
        (.error (.file config.keyPath cause))
  | exposed (material : Bytes) (mode : Nat) : config.requirePrivate = true →
      Attempted config protection attempt
        [.readFile config.keyPath (.ok material), .permissions config.keyPath (.exposed mode)]
        (.error (.insecurePermissions config.keyPath mode))
  | opened {material : Bytes} {permissions : Permissions} {proof certificates : List Event}
      {proven : Outcome LoadError Unit} {outcome : Outcome LoadError Entry} :
      config.allows permissions →
      Proves config attempt material protection proof proven →
      Completes config material proven certificates outcome →
      Attempted config protection attempt
        (.readFile config.keyPath (.ok material) :: .permissions config.keyPath permissions ::
          (proof ++ certificates)) outcome

/-! ## Runs of the stages -/

theorem loadFile_ends {path : String} {outcome : Outcome LoadError Bytes}
    (h : (loadFile path).Ends events outcome) :
    (∃ bytes, events = [.readFile path (.ok bytes)] ∧ outcome = .ok bytes) ∨
      ∃ cause, events = [.readFile path (.error cause)] ∧ outcome = .error (.file path cause) := by
  obtain ⟨answer, rest, rfl, hnext⟩ := Attempt.ends_readFile_bind_iff.1 h
  cases answer with
  | ok bytes =>
      obtain ⟨rfl, rfl⟩ := Attempt.ends_pure_iff.1 hnext
      exact Or.inl ⟨bytes, rfl, rfl⟩
  | error cause =>
      obtain ⟨rfl, rfl⟩ := Attempt.ends_fail_iff.1 hnext
      exact Or.inr ⟨cause, rfl, rfl⟩

/-- What stands after reading a file goes on with its content, or the file cannot be read. -/
theorem loadFile_bind_ends {path : String} {f : Bytes → Attempt LoadError Entry}
    {outcome : Outcome LoadError Entry} (h : (loadFile path >>= f).Ends events outcome) :
    (∃ bytes rest, events = .readFile path (.ok bytes) :: rest ∧ (f bytes).Ends rest outcome) ∨
      ∃ cause, events = [.readFile path (.error cause)] ∧ outcome = .error (.file path cause) := by
  rcases Attempt.ends_bind_iff.1 h with
    ⟨first, second, bytes, rfl, hread, hnext⟩ | ⟨cause, hread, rfl⟩ | ⟨hread, rfl⟩
  · obtain ⟨bytes', rfl, hb⟩ | ⟨cause, -, hb⟩ := loadFile_ends hread
    · cases hb
      exact Or.inl ⟨bytes, second, rfl, hnext⟩
    · cases hb
  · obtain ⟨bytes, -, hb⟩ | ⟨cause', rfl, hb⟩ := loadFile_ends hread
    · cases hb
    · cases hb
      exact Or.inr ⟨cause', rfl, rfl⟩
  · obtain ⟨bytes, -, hb⟩ | ⟨cause, -, hb⟩ := loadFile_ends hread <;> cases hb

theorem checkPermissions_ends {outcome : Outcome LoadError Unit}
    (h : (checkPermissions config).Ends events outcome) :
    ∃ permissions, events = [.permissions config.keyPath permissions] ∧
      (config.allows permissions ∧ outcome = .ok () ∨
        ∃ mode, permissions = .exposed mode ∧ config.requirePrivate = true ∧
          outcome = .error (.insecurePermissions config.keyPath mode)) := by
  obtain ⟨permissions, rest, rfl, hnext⟩ := Attempt.ends_permissions_bind_iff.1 h
  cases permissions with
  | exposed mode =>
      cases hr : config.requirePrivate with
      | true =>
          rw [hr] at hnext
          obtain ⟨rfl, rfl⟩ := Attempt.ends_fail_iff.1 hnext
          exact ⟨_, rfl, Or.inr ⟨mode, rfl, rfl, rfl⟩⟩
      | false =>
          rw [hr] at hnext
          obtain ⟨rfl, rfl⟩ := Attempt.ends_pure_iff.1 hnext
          exact ⟨_, rfl, Or.inl ⟨hr, rfl⟩⟩
  | ownerOnly =>
      obtain ⟨rfl, rfl⟩ := Attempt.ends_pure_iff.1 hnext
      exact ⟨_, rfl, Or.inl ⟨trivial, rfl⟩⟩
  | unknown =>
      obtain ⟨rfl, rfl⟩ := Attempt.ends_pure_iff.1 hnext
      exact ⟨_, rfl, Or.inl ⟨trivial, rfl⟩⟩

/-- What stands after the check goes on if the permissions are good enough. -/
theorem checkPermissions_bind_ends {f : Unit → Attempt LoadError Entry}
    {outcome : Outcome LoadError Entry} (h : (checkPermissions config >>= f).Ends events outcome) :
    (∃ permissions rest, events = .permissions config.keyPath permissions :: rest ∧
      config.allows permissions ∧ (f ()).Ends rest outcome) ∨
    ∃ mode, events = [.permissions config.keyPath (.exposed mode)] ∧
      config.requirePrivate = true ∧
      outcome = .error (.insecurePermissions config.keyPath mode) := by
  rcases Attempt.ends_bind_iff.1 h with
    ⟨first, second, _, rfl, hcheck, hnext⟩ | ⟨cause, hcheck, rfl⟩ | ⟨hcheck, rfl⟩
  · obtain ⟨permissions, rfl, ⟨ha, -⟩ | ⟨mode, -, -, hm⟩⟩ := checkPermissions_ends hcheck
    · exact Or.inl ⟨permissions, second, rfl, ha, hnext⟩
    · cases hm
  · obtain ⟨permissions, rfl, ⟨-, hm⟩ | ⟨mode, rfl, hr, hm⟩⟩ := checkPermissions_ends hcheck
    · cases hm
    · cases hm
      exact Or.inr ⟨mode, rfl, hr, rfl⟩
  · obtain ⟨permissions, -, ⟨-, hm⟩ | ⟨mode, -, -, hm⟩⟩ := checkPermissions_ends hcheck <;>
      cases hm

theorem proveAskedKey_ends {outcome : Outcome LoadError Unit}
    (h : (proveAskedKey config material attempt).Ends events outcome) :
    ∃ answer, events = [.askPassword (promptOf config material attempt) answer] ∧
      outcome = answered config material answer := by
  obtain ⟨answer, rest, rfl, hnext⟩ := Attempt.ends_askPassword_bind_iff.1 h
  refine ⟨answer, ?_⟩
  cases answer with
  | password octets =>
      obtain ⟨rfl, rfl⟩ := Attempt.ends_ofOutcome_iff.1 hnext
      exact ⟨rfl, rfl⟩
  | cancelled =>
      obtain ⟨rfl, rfl⟩ := Attempt.ends_fail_iff.1 hnext
      exact ⟨rfl, rfl⟩
  | abandoned =>
      obtain ⟨rfl, rfl⟩ := Attempt.ends_ofOutcome_iff.1 hnext
      exact ⟨rfl, rfl⟩

theorem proves_of_ends {outcome : Outcome LoadError Unit}
    (h : (verifyKey config protection material attempt).Ends events outcome) :
    Proves config attempt material protection events outcome := by
  cases protection with
  | password octets =>
      obtain ⟨rfl, rfl⟩ := Attempt.ends_ofOutcome_iff.1 h
      exact .fixed octets
  | interactive =>
      unfold verifyKey at h
      -- the pass without a password decides whether the callback is asked
      by_cases hn : Key.PrivateKey.ofFile material none config.options = .error .noPasswordProvided
      · rw [hn] at h
        obtain ⟨answer, rfl, rfl⟩ := proveAskedKey_ends h
        exact .asked answer hn
      · have hfree : events = [] ∧ outcome = decoded config material none := by
          unfold decoded
          cases hd : Key.PrivateKey.ofFile material none config.options with
          | ok key =>
              rw [hd] at h
              exact Attempt.ends_ofOutcome_iff.1 h
          | error cause =>
              rw [hd] at h hn
              have hk : cause.kind ≠ .noPasswordProvided := by
                intro hk
                exact hn (by rw [(Key.Error.kind_eq_noPasswordProvided_iff cause).1 hk])
              dsimp only at h
              rw [if_neg hk] at h
              exact Attempt.ends_fail_iff.1 h
          | aborted =>
              rw [hd] at h
              exact Attempt.ends_ofOutcome_iff.1 h
        obtain ⟨rfl, rfl⟩ := hfree
        exact .free hn

theorem certifies_of_ends {outcome : Outcome LoadError Entry}
    (h : (loadCertificates config material).Ends events outcome) :
    Certifies config material events outcome := by
  rcases loadFile_bind_ends h with ⟨bytes, rest, rfl, hnext⟩ | ⟨cause, rfl, rfl⟩
  · cases hc : X509.Chain.ofFile bytes with
    | error cause =>
        rw [hc] at hnext
        obtain ⟨rfl, rfl⟩ := Attempt.ends_fail_iff.1 hnext
        exact .invalid hc
    | ok chain =>
        rw [hc] at hnext
        obtain ⟨createdAt, last, rfl, hdone⟩ := Attempt.ends_now_bind_iff.1 hnext
        obtain ⟨rfl, rfl⟩ := Attempt.ends_pure_iff.1 hdone
        exact .valid createdAt hc
  · exact .unread cause

theorem completes_of_ends {outcome : Outcome LoadError Entry}
    (h : (verifyKey config protection material attempt >>= fun _ =>
      loadCertificates config material).Ends events outcome) :
    ∃ proof certificates proven, events = proof ++ certificates ∧
      Proves config attempt material protection proof proven ∧
      Completes config material proven certificates outcome := by
  rcases Attempt.ends_bind_iff.1 h with
    ⟨proof, certificates, _, rfl, hproof, hcert⟩ | ⟨cause, hproof, rfl⟩ | ⟨hproof, rfl⟩
  · exact ⟨proof, certificates, _, rfl, proves_of_ends hproof, .proved (certifies_of_ends hcert)⟩
  · exact ⟨events, [], _, (List.append_nil events).symm, proves_of_ends hproof, .unproved cause⟩
  · exact ⟨events, [], _, (List.append_nil events).symm, proves_of_ends hproof, .aborted⟩

/-- Every run of an attempt is what an attempt can do. -/
theorem attempted_of_ends {outcome : Outcome LoadError Entry}
    (h : (tryLoad config protection attempt).Ends events outcome) :
    Attempted config protection attempt events outcome := by
  have hstages : (loadFile config.keyPath >>= fun material => checkPermissions config >>= fun _ =>
      verifyKey config protection material attempt >>= fun _ =>
        loadCertificates config material).Ends events outcome := h
  rcases loadFile_bind_ends hstages with ⟨material, rest, rfl, hchecked⟩ | ⟨cause, rfl, rfl⟩
  · rcases checkPermissions_bind_ends hchecked with
      ⟨permissions, rest, rfl, ha, hproved⟩ | ⟨mode, rfl, hr, rfl⟩
    · obtain ⟨proof, certificates, proven, rfl, hproof, hcert⟩ := completes_of_ends hproved
      exact .opened ha hproof hcert
    · exact .exposed material mode hr
  · exact .unread cause

end Credential.Store
