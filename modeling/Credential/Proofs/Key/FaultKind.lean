import Credential.Key.Info
import Credential.Key.PrivateKey
import Credential.Proofs.Stages

/-!
# Faults by stage

Which faults each stage of decoding a key file can end in. `Faults P r` says that every fault of `r`
satisfies `P`; it holds of a sequence of stages if it holds of every stage (`Faults.bind`), so one
short lemma a stage is enough.

A stage that reads octets in the clear is at fault for what it reads (`Error.IsReading`): an
encoding, a structure, a header, an algorithm. Such a fault is of a malformed or unsupported key. So
a wrong password, a missing one and a failed decryption are reported by the stages that look at the
password and by no other.
-/

namespace Credential.Key

variable {α β : Type} {kinds others : List Kind} {P Q : Error → Prop}

/-- Every fault of `r` satisfies `P`. -/
def Faults (P : Error → Prop) (r : Except Error α) : Prop :=
  ∀ e, r = .error e → P e

/-- Every fault of `r` has one of the given kinds. -/
abbrev FaultsIn (kinds : List Kind) (r : Except Error α) : Prop :=
  Faults (fun e => e.kind ∈ kinds) r

/-- The kinds of faults that a key in the clear can have. -/
def Kind.ofClear : List Kind := [.malformedKey, .unsupportedAlgorithm]

/-- The kinds of faults that show without a password. -/
def Kind.ofSealed : List Kind := [.malformedKey, .unsupportedAlgorithm, .keyTooLarge]

/-- The kinds of faults that show with a password. -/
def Kind.ofOpened : List Kind := [.malformedKey, .unsupportedAlgorithm, .badPassword]

/-- A cause that octets in the clear are refused for. -/
def Error.IsReading : Error → Prop
  | .der _ | .pem _ | .invalidVersion _ _ | .unrecognizedStructure _ | .unrecognizedLabel _
  | .unsupportedAlgorithm _ | .unsupportedCipher _ | .missingHeader _ | .invalidDekInfo _
  | .invalidPbeParameters _ => True
  | .cipher _ | .decryptionFailed _ | .badPassword | .noPasswordProvided | .keyTooLarge _ _ _
  | .inputOutOfRange | .rsa _ => False

theorem Error.kind_of_isReading {e : Error} (h : e.IsReading) : e.kind ∈ Kind.ofClear := by
  cases e <;> first | exact absurd h id | simp [Error.kind, Kind.ofClear]

/-! ## Kinds with a single fault -/

@[simp] theorem Error.kind_eq_badPassword_iff (e : Error) :
    e.kind = .badPassword ↔ e = .badPassword := by
  cases e <;> simp [Error.kind]

@[simp] theorem Error.kind_eq_noPasswordProvided_iff (e : Error) :
    e.kind = .noPasswordProvided ↔ e = .noPasswordProvided := by
  cases e <;> simp [Error.kind]

/-! ## Sequences of stages -/

theorem faults_ok (a : α) : Faults P (.ok a) := by
  intro e h
  cases h

theorem faults_pure (a : α) : Faults P (pure a : Except Error α) :=
  faults_ok a

theorem faults_error {e : Error} (h : P e) : Faults P (.error e : Except Error α) := by
  intro e' he
  cases he
  exact h

/-- A check that fails, whatever stands after it. -/
theorem faults_throw_bind {e : Error} (h : P e) (f : α → Except Error β) :
    Faults P ((throw e : Except Error α) >>= f) :=
  faults_error h

theorem Faults.bind {r : Except Error α} {f : α → Except Error β} (hr : Faults P r)
    (hf : ∀ a, Faults P (f a)) : Faults P (r >>= f) := by
  intro e h
  cases r with
  | error e' =>
      cases h
      exact hr e rfl
  | ok a => exact hf a e h

theorem Faults.mono {r : Except Error α} (h : Faults P r) (himp : ∀ e, P e → Q e) :
    Faults Q r := by
  intro e he
  exact himp e (h e he)

theorem Faults.map {r : Except Error α} (h : Faults P r) (f : α → β) : Faults P (r.map f) := by
  intro e he
  cases r with
  | error e' =>
      cases he
      exact h e rfl
  | ok a => cases he

/-- A stage under another description of its faults. -/
theorem faults_mapError {ε : Type} {describe : ε → Error} (r : Except ε α)
    (h : ∀ e, P (describe e)) : Faults P (r.mapError describe) := by
  intro e he
  cases r with
  | error e' =>
      cases he
      exact h e'
  | ok a => cases he

/-- Every DER fault is one of reading. -/
theorem faults_der (r : Except Der.Error α) : Faults Error.IsReading (liftM r : Except Error α) :=
  faults_mapError r fun _ => trivial

/-- Every PEM fault is one of reading. -/
theorem faults_pem (r : Except Pem.Error α) : Faults Error.IsReading (liftM r : Except Error α) :=
  faults_mapError r fun _ => trivial

/-- A stage that only reads. -/
theorem Faults.ofClear {r : Except Error α} (h : Faults Error.IsReading r) :
    FaultsIn Kind.ofClear r :=
  h.mono fun _ => Error.kind_of_isReading

/-! ## Structures in the clear -/

theorem AlgorithmIdentifier.faults_decode (data : Bytes) :
    Faults Error.IsReading (AlgorithmIdentifier.decode data) := by
  unfold AlgorithmIdentifier.decode
  refine (faults_der _).bind fun content => ?_
  refine (faults_der _).bind fun ⟨algorithm, rest⟩ => ?_
  dsimp only
  split
  · exact faults_pure _
  · refine (faults_der _).bind fun ⟨parameters, rest⟩ => ?_
    exact (faults_der _).bind fun _ => faults_pure _

/-- An RSAPrivateKey is refused for its encoding or for its version. -/
theorem RsaParameters.faults_decode_of (hder : ∀ cause, P (.der cause))
    (hversion : ∀ version, P (.invalidVersion .rsaPrivateKey version)) (data : Bytes) :
    Faults P (RsaParameters.decode data) := by
  have hstage {α : Type} (r : Except Der.Error α) : Faults P (liftM r : Except Error α) :=
    faults_mapError r hder
  unfold RsaParameters.decode
  refine (hstage _).bind fun content => ?_
  refine (hstage _).bind fun ⟨version, rest⟩ => ?_
  dsimp only
  split
  · exact faults_throw_bind (hversion version) _
  · refine (hstage _).bind fun ⟨modulus, rest⟩ => ?_
    refine (hstage _).bind fun ⟨publicExponent, rest⟩ => ?_
    exact (hstage _).bind fun _ => faults_pure _

theorem RsaParameters.faults_decode (data : Bytes) :
    Faults Error.IsReading (RsaParameters.decode data) :=
  faults_decode_of (fun _ => trivial) (fun _ => trivial) data

theorem PrivateKeyInfo.faults_decode (data : Bytes) :
    Faults Error.IsReading (PrivateKeyInfo.decode data) := by
  unfold PrivateKeyInfo.decode
  refine (faults_der _).bind fun content => ?_
  refine (faults_der _).bind fun ⟨version, rest⟩ => ?_
  dsimp only
  split
  · exact faults_throw_bind (by simp [Error.IsReading]) _
  · refine (faults_der _).bind fun ⟨identifier, rest⟩ => ?_
    refine (AlgorithmIdentifier.faults_decode identifier).bind fun algorithm => ?_
    exact (faults_der _).bind fun _ => faults_pure _

theorem DerStructure.faults_classify (data : Bytes) :
    Faults Error.IsReading (DerStructure.classify data) := by
  unfold DerStructure.classify
  refine (faults_der _).bind fun ⟨content, _⟩ => ?_
  dsimp only
  split
  · refine (faults_der _).bind fun ⟨_, rest⟩ => ?_
    dsimp only
    split
    · exact faults_pure _
    · exact faults_pure _
    · exact faults_error trivial
  · exact faults_pure _
  · exact faults_error trivial

theorem Algorithm.faults_ofOid (oid : Der.ObjectIdentifier) :
    Faults Error.IsReading (Algorithm.ofOid oid) := by
  unfold Algorithm.ofOid
  split
  · exact faults_ok _
  · split
    · exact faults_ok _
    · exact faults_error trivial

theorem Specification.faults_ofPkcs1 (data : Bytes) :
    Faults Error.IsReading (Specification.ofPkcs1 data) :=
  (RsaParameters.faults_decode data).map _

theorem Specification.faults_ofPkcs8 (data : Bytes) :
    Faults Error.IsReading (Specification.ofPkcs8 data) := by
  refine (PrivateKeyInfo.faults_decode data).bind fun info => ?_
  exact (Algorithm.faults_ofOid _).bind fun _ => faults_pure _

/-! ## Outcomes -/

/-- Every fault of an outcome has one of the given kinds. An aborted one has no fault. -/
def OutcomeFaultsIn (kinds : List Kind) (r : Outcome Error α) : Prop :=
  ∀ e, r = .error e → e.kind ∈ kinds

theorem outcomeFaultsIn_ok (a : α) : OutcomeFaultsIn kinds (.ok a) := by
  intro e h
  cases h

theorem outcomeFaultsIn_aborted : OutcomeFaultsIn kinds (.aborted : Outcome Error α) := by
  intro e h
  cases h

theorem outcomeFaultsIn_error {e : Error} (h : e.kind ∈ kinds) :
    OutcomeFaultsIn kinds (.error e : Outcome Error α) := by
  intro e' he
  cases he
  exact h

theorem OutcomeFaultsIn.bind {r : Outcome Error α} {f : α → Outcome Error β}
    (hr : OutcomeFaultsIn kinds r) (hf : ∀ a, OutcomeFaultsIn kinds (f a)) :
    OutcomeFaultsIn kinds (r >>= f) := by
  intro e h
  cases r with
  | ok a => exact hf a e h
  | error e' =>
      cases h
      exact hr e rfl
  | aborted => cases h

theorem OutcomeFaultsIn.map {r : Outcome Error α} (h : OutcomeFaultsIn kinds r) (f : α → β) :
    OutcomeFaultsIn kinds (r.map f) := by
  intro e he
  cases r with
  | ok a => cases he
  | error e' =>
      cases he
      exact h e rfl
  | aborted => cases he

/-- A stage that never aborts, as an outcome. -/
theorem Faults.lift {r : Except Error α} (h : FaultsIn kinds r) :
    OutcomeFaultsIn kinds (liftM r : Outcome Error α) := by
  intro e he
  cases r with
  | ok a => cases he
  | error e' =>
      cases he
      exact h e rfl

/-! ## Building keys -/

theorem Rsa.faultsIn_recoverFactors (n e d : Nat) :
    OutcomeFaultsIn [.malformedKey] (Rsa.recoverFactors n e d) := by
  have hfault (fault : RsaFault) : (Error.rsa fault).kind ∈ [Kind.malformedKey] := by
    simp [Error.kind]
  unfold Rsa.recoverFactors
  split
  · exact outcomeFaultsIn_error (hfault _)
  split
  · exact outcomeFaultsIn_aborted
  dsimp only
  split
  · exact outcomeFaultsIn_error (hfault _)
  split
  · exact outcomeFaultsIn_error (hfault _)
  split
  · exact outcomeFaultsIn_error (hfault _)
  · exact outcomeFaultsIn_ok _

theorem Rsa.PrivateKey.faultsIn_check (key : Rsa.PrivateKey) :
    FaultsIn [.malformedKey] key.check := by
  have hfault (fault : RsaFault) :
      FaultsIn [.malformedKey] (.error (.rsa fault) : Except Error Unit) :=
    faults_error (by simp [Error.kind])
  unfold Rsa.PrivateKey.check
  dsimp only
  repeat' split
  -- every check but the last branch ends in an RSA fault
  any_goals exact hfault _
  exact faults_ok _

theorem Rsa.PrivateKey.faultsIn_ofParameters (params : RsaParameters) :
    OutcomeFaultsIn [.malformedKey] (Rsa.PrivateKey.ofParameters params) := by
  refine (Rsa.faultsIn_recoverFactors _ _ _).bind fun ⟨p, q⟩ => ?_
  exact (Rsa.PrivateKey.faultsIn_check _).lift.bind fun _ => outcomeFaultsIn_ok _

theorem Dsa.PrivateKey.faults_readDomain (data : Bytes) :
    Faults Error.IsReading (Dsa.PrivateKey.readDomain data) := by
  unfold Dsa.PrivateKey.readDomain
  refine (faults_der _).bind fun content => ?_
  refine (faults_der _).bind fun ⟨p, rest⟩ => ?_
  refine (faults_der _).bind fun ⟨q, rest⟩ => ?_
  refine (faults_der _).bind fun ⟨g, rest⟩ => ?_
  exact (faults_der _).bind fun _ => faults_pure _

theorem Dsa.PrivateKey.faults_ofInfo (info : PrivateKeyInfo) :
    Faults Error.IsReading (Dsa.PrivateKey.ofInfo info) := by
  unfold Dsa.PrivateKey.ofInfo
  split
  · exact faults_error trivial
  · refine (Dsa.PrivateKey.faults_readDomain _).bind fun ⟨p, q, g⟩ => ?_
    refine (faults_der _).bind fun ⟨x, rest⟩ => ?_
    exact (faults_der _).bind fun _ => faults_pure _

theorem PrivateKey.faultsIn_ofInfo (info : PrivateKeyInfo) :
    OutcomeFaultsIn Kind.ofClear (PrivateKey.ofInfo info) := by
  have hmalformed : [Kind.malformedKey] ⊆ Kind.ofClear := by simp [Kind.ofClear]
  unfold PrivateKey.ofInfo
  apply OutcomeFaultsIn.bind
  · exact (Algorithm.faults_ofOid _).ofClear.lift
  intro algorithm
  cases algorithm with
  | rsa =>
      refine (RsaParameters.faults_decode _).ofClear.lift.bind fun params => ?_
      refine OutcomeFaultsIn.bind ?_ fun _ => outcomeFaultsIn_ok _
      exact fun e he => hmalformed (Rsa.PrivateKey.faultsIn_ofParameters params e he)
  | dsa =>
      refine OutcomeFaultsIn.bind ?_ fun _ => outcomeFaultsIn_ok _
      exact (Dsa.PrivateKey.faults_ofInfo info).ofClear.lift

/-- A key is at fault for its numbers or its algorithm, and never for a password. -/
theorem PrivateKey.faultsIn_ofSpecification (specification : Specification) :
    OutcomeFaultsIn Kind.ofClear (PrivateKey.ofSpecification specification) := by
  have hmalformed : [Kind.malformedKey] ⊆ Kind.ofClear := by simp [Kind.ofClear]
  cases specification with
  | rsa params =>
      refine OutcomeFaultsIn.map ?_ _
      exact fun e he => hmalformed (Rsa.PrivateKey.faultsIn_ofParameters params e he)
  | pkcs8 algorithm encoded =>
      refine (PrivateKeyInfo.faults_decode encoded).ofClear.lift.bind fun info => ?_
      exact PrivateKey.faultsIn_ofInfo info

end Credential.Key
