import Credential.Proofs.Command.Console
import Credential.Proofs.X509.StoredCertificate

/-!
# Checks and inspections fail only where the load does

A check of a store asks the store for its chain, its size and its date after the load, converts the
dates of all certificates and reads the key file again (`StoreCheck.runStepwise`). None of that
fails after a load that succeeded, if the key file stays as it is: a store that is loaded answers at
once (`askStore_of_loaded`), the dates of a chain can be converted, and a key that was decoded can
be inspected. So a check is its load and a report of what was loaded (`StoreCheck.runStepwise_eq`,
`StoreCheck.outcome_of_load`).

An inspection of a key decodes it, unless it is encrypted and there is no password, and so fails as
decoding does (`KeyInspection.outcome_of_password`). `reports_fail_only_with_load` says both.
-/

namespace Credential.Store.Response

/-- The chain in a response, if there is one. -/
def chain? : Response → Option X509.Chain
  | .chain found => found
  | _ => none

/-- The number in a response. -/
def number : Response → Nat
  | .count n => n
  | _ => 0

/-- The moment in a response, if there is one. -/
def moment? : Response → Option Calendar.Timestamp
  | .date found => found
  | _ => none

end Credential.Store.Response

namespace Credential.Command

open Store (Config Entry KeyStore Protection Query Response Verified)

/-! ## A check step by step -/

section

variable {m : Type → Type} [Monad m]

/-- Asks a store on a console: the response, and the store after it. -/
def askStore (console : Console m) (store : KeyStore) (query : Query) :
    Session m (Response × KeyStore) := do
  let (outcome, after) ← Session.ask ((store.perform (.query query)).runIn (hostOf console))
  let response ← Session.ofOutcome (outcome.mapError .store)
  return (response, after)

/-- The summaries of a chain with converted dates; `outOfReach` is the fault if a date cannot be
converted. -/
def convertedSummaries (outOfReach : Error) (chain : X509.Chain) :
    Outcome Error (List X509.Summary) :=
  (chain.toList.mapM X509.Certificate.checkedSummary?).elim (.error outOfReach) .ok

/-- The report on a store, with a query for each part of it; `summaries` gives those of a chain. -/
def StoreCheck.reportStepwise (request : StoreCheck) (console : Console m)
    (summaries : X509.Chain → Outcome Error (List X509.Summary)) (store : KeyStore) :
    Session m StoreReport := do
  let name := request.config.entryAlias
  let (chain, store) ← askStore console store (.certificateChain name)
  let certificates ← Session.ofOutcome ((chain.chain?.map summaries).getD (.ok []))
  let (size, store) ← askStore console store .size
  let (date, _) ← askStore console store (.creationDate name)
  let bytes ← readFile console request.config.keyPath
  let info ← Session.ofExcept .key (Key.Info.ofFile bytes)
  return ⟨name, size.number, date.moment?, info, certificates⟩

/-- Checks a store step by step: loads it, and asks it for each part of the report. -/
def StoreCheck.runStepwise (request : StoreCheck) (console : Console m) (outOfReach : Error) :
    Session m StoreReport := do
  let protection ← protectionOf console request.password
  let (_, store) ← askStore console (.fresh request.config protection) .load
  request.reportStepwise console (convertedSummaries outOfReach) store

end

variable {σ : Type} {console : Console (StateM σ)} {store after : KeyStore} {entry : Entry}
  {config : Config} {protection : Protection} {s t : σ}

/-! ### The load -/

/-- The entry of a store that is asked for it, and the store after that. -/
def entryFrom (console : Console (StateM σ)) (store : KeyStore) (s : σ) :
    (Outcome Store.Error Entry × KeyStore) × σ :=
  (store.entry.runIn (hostOf console)).run s

theorem loadedEntry_runFrom (console : Console (StateM σ)) (store : KeyStore) (s : σ) :
    (loadedEntry console store).runFrom s =
      ((entryFrom console store s).1.1.mapError .store, (entryFrom console store s).2) := rfl

/-- The outcome of a load on a console, and the state after it. -/
def loadFrom (console : Console (StateM σ)) (store : KeyStore) (s : σ) :
    (Outcome Store.Error Response × KeyStore) × σ :=
  ((store.perform (.query .load)).runIn (hostOf console)).run s

/-- A load gives no more than whether there is an entry. -/
theorem loadFrom_eq (console : Console (StateM σ)) (store : KeyStore) (s : σ) :
    loadFrom console store s =
      (((entryFrom console store s).1.1.bind fun _ => .ok .done, (entryFrom console store s).1.2),
        (entryFrom console store s).2) := by
  unfold loadFrom KeyStore.perform
  rw [Store.Action.runIn_bind]
  rfl

theorem askStore_load_runFrom (console : Console (StateM σ)) (store : KeyStore) (s : σ) :
    (askStore console store .load).runFrom s =
      (((loadFrom console store s).1.1.mapError .store).map (·, (loadFrom console store s).1.2),
        (loadFrom console store s).2) := by
  unfold askStore
  rw [Session.runFrom_bind_of_ok (Session.runFrom_ask _ s)]
  change (Session.ofOutcome ((loadFrom console store s).1.1.mapError .store) >>= _).runFrom _ = _
  rw [Session.runFrom_bind, Session.runFrom_ofOutcome]
  cases (loadFrom console store s).1.1 <;> rfl

/-- A store that is loaded answers without its host, and stays as it is. -/
theorem askStore_of_loaded {query : Query} {response : Response} (hs : store.state = .loaded entry)
    (hanswer : query.answer store.config.options entry = .ok response) (s : σ) :
    (askStore console store query).runFrom s = (.ok (response, store), s) := by
  have hperform : store.perform (.query query) = .done (.ok response, store) := by
    unfold KeyStore.perform KeyStore.entry
    rw [hs, ← hanswer]
    rfl
  unfold askStore
  rw [hperform]
  exact Session.runFrom_bind_of_ok (Session.runFrom_ask _ s)

/-- The chain of a file has all its summaries. -/
theorem convertedSummaries_eq {certificates : Bytes} {chain : X509.Chain}
    (h : X509.Chain.ofFile certificates = .ok chain) (outOfReach : Error) :
    convertedSummaries outOfReach chain = .ok (chain.toList.map X509.Certificate.summary) := by
  unfold convertedSummaries
  rw [X509.Chain.mapM_checkedSummary? h, Option.elim_some]

/-- The parts of a report are there once the store is loaded. -/
theorem StoreCheck.reportStepwise_runFrom {request : StoreCheck}
    {summaries : X509.Chain → Outcome Error (List X509.Summary)} (hs : store.state = .loaded entry)
    (hname : entry.name = request.config.entryAlias)
    (hsummaries : summaries entry.chain = .ok (entry.chain.toList.map X509.Certificate.summary))
    (s : σ) :
    (request.reportStepwise console summaries store).runFrom s =
      (do
        let bytes ← readFile console request.config.keyPath
        let info ← Session.ofExcept .key (Key.Info.ofFile bytes)
        return reportStore entry info : Session (StateM σ) StoreReport).runFrom s := by
  have hunder : ∀ {α : Type} (value : α),
      entry.under request.config.entryAlias value = some value := fun value => if_pos hname
  have hfound : Query.answer store.config.options entry
      (.certificateChain request.config.entryAlias) = .ok (.chain (some entry.chain)) := by
    rw [Query.answer, hunder]
  have hdate : Query.answer store.config.options entry
      (.creationDate request.config.entryAlias) = .ok (.date (some entry.createdAt)) := by
    rw [Query.answer, hunder]
  have hsize : Query.answer store.config.options entry .size = .ok (.count 1) := rfl
  -- every query is answered in the state in which it is asked
  refine (Session.runFrom_bind_of_ok (askStore_of_loaded hs hfound s)).trans ?_
  refine (Session.runFrom_bind_of_ok (congrArg (·, s) hsummaries)).trans ?_
  refine (Session.runFrom_bind_of_ok (askStore_of_loaded hs hsize s)).trans ?_
  refine (Session.runFrom_bind_of_ok (askStore_of_loaded hs hdate s)).trans ?_
  unfold reportStore
  rw [hname]
  rfl

/-- No step of a check fails but the load and the second look at the key file. -/
theorem StoreCheck.runStepwise_eq (request : StoreCheck) (console : Console (StateM σ))
    (outOfReach : Error) : request.runStepwise console outOfReach = request.run console := by
  apply Session.ext_runFrom
  intro s
  -- both begin with the protection and then ask the same store for its entry
  refine Session.runFrom_bind_congr fun protection t _ => ?_
  have hload := askStore_load_runFrom console (.fresh request.config protection) t
  have hentry := loadedEntry_runFrom console (.fresh request.config protection) t
  rw [loadFrom_eq] at hload
  rcases hrun : entryFrom console (.fresh request.config protection) t with ⟨⟨outcome, after⟩, u⟩
  rw [hrun] at hload hentry
  cases outcome with
  | ok entry =>
      obtain ⟨hafter, events, password, key, hverified, -⟩ := KeyStore.verified_of_runIn hrun
      obtain ⟨-, -, -, -, certificates, -, -, hchain⟩ := hverified.reads
      have hloaded : after.state = .loaded entry := by rw [hafter]
      refine (Session.runFrom_bind_of_ok hload).trans (Eq.trans ?_
        (Session.runFrom_bind_of_ok hentry).symm)
      exact reportStepwise_runFrom hloaded hverified.name
        (convertedSummaries_eq hchain outOfReach) u
  | error cause =>
      exact (Session.runFrom_bind_of_error hload).trans (Session.runFrom_bind_of_error hentry).symm
  | aborted =>
      exact (Session.runFrom_bind_of_aborted hload).trans
        (Session.runFrom_bind_of_aborted hentry).symm

/-- What a check owes to the load: it succeeds exactly if the load does, and then reports the alias,
the size, a date, what the key file shows and the certificates in order; it fails with the fault of
the load and with no other. -/
structure StoreCheck.FollowsLoad (request : StoreCheck) (material certificates : Bytes)
    (load : Outcome Store.Error Response) (outcome : Outcome Error StoreReport) : Prop where
  succeeds_iff : (∃ report, outcome = .ok report) ↔ load = .ok .done
  fails_iff : ∀ cause, outcome = .error cause ↔ ∃ fault, load = .error fault ∧ .store fault = cause
  reports : ∀ report, outcome = .ok report → ∃ chain createdAt,
    X509.Chain.ofFile certificates = .ok chain ∧ Key.Info.ofFile material = .ok report.key ∧
    report.name = request.config.entryAlias ∧ report.size = 1 ∧
    report.createdAt = some createdAt ∧
    report.certificates = chain.toList.map X509.Certificate.summary

/-- What a check does after its load. -/
theorem StoreCheck.run_runFrom {request : StoreCheck}
    (hprotection : (protectionOf console request.password).runFrom s = (.ok protection, t)) :
    (request.run console).runFrom s =
      (loadedEntry console (.fresh request.config protection) >>= fun entry => do
        let bytes ← readFile console request.config.keyPath
        let info ← Session.ofExcept .key (Key.Info.ofFile bytes)
        return reportStore entry info).runFrom t :=
  Session.runFrom_bind_of_ok hprotection

theorem StoreCheck.followsLoad {request : StoreCheck} {material certificates : Bytes}
    (hkey : console.Holds request.config.keyPath material)
    (hcertificates : console.Holds request.config.certificatePath certificates)
    (hprotection : (protectionOf console request.password).runFrom s = (.ok protection, t)) :
    request.FollowsLoad material certificates
      (loadFrom console (.fresh request.config protection) t).1.1
      ((request.run console).runFrom s).1 := by
  have hentry := loadedEntry_runFrom console (.fresh request.config protection) t
  rw [StoreCheck.run_runFrom hprotection, loadFrom_eq]
  rcases hrun : entryFrom console (.fresh request.config protection) t with ⟨⟨outcome, after⟩, u⟩
  rw [hrun] at hentry
  cases outcome with
  | ok entry =>
      obtain ⟨hname, hchain, password, key, hdecodes⟩ :=
        verified_of_holds hkey hcertificates hrun
      -- the key that the load has decoded is in the file that is read again
      obtain ⟨-, info, -, -, hinfo⟩ := Key.PrivateKey.exists_info_of_ofFile hdecodes
      rw [Session.runFrom_bind_of_ok hentry, Session.runFrom_bind_of_ok (readFile_runFrom hkey u),
        hinfo]
      refine ⟨⟨fun _ => rfl, fun _ => ⟨reportStore entry info, rfl⟩⟩, ?_, ?_⟩
      · intro cause
        refine ⟨fun h => ?_, fun h => ?_⟩
        · cases h
        · obtain ⟨fault, h, -⟩ := h
          cases h
      · intro report h
        cases h
        exact ⟨entry.chain, entry.createdAt, hchain, hinfo, hname, rfl, rfl, rfl⟩
  | error cause =>
      rw [Session.runFrom_bind_of_error hentry]
      exact ⟨by simp [Outcome.bind], by simp [Outcome.bind, eq_comm], by simp⟩
  | aborted =>
      rw [Session.runFrom_bind_of_aborted hentry]
      exact ⟨by simp [Outcome.bind], by simp [Outcome.bind], by simp⟩

/-! ## An inspection -/

/-- The settings for decoding an inspected key. -/
def KeyInspection.decoding (request : KeyInspection) : Key.Options :=
  ⟨⟨request.maxKeyBits⟩, .paddingAndStructure⟩

/-- What an inspection of a key file that shows `info` owes to decoding it: an encrypted key without
a password is reported as it is shown; otherwise the inspection succeeds exactly if the key decodes,
and then reports its size and algorithm, and it fails with the fault of the key. -/
structure KeyInspection.FollowsDecoding (info : Key.Info) (password : Option Bytes)
    (decoded : Outcome Key.Error Key.PrivateKey) (outcome : Outcome Error KeyReport) : Prop where
  undecoded : info.isEncrypted = true → password = none →
    ∃ report, outcome = .ok report ∧ report.decoded = false ∧ report.info = info
  succeeds_iff : ¬ (info.isEncrypted = true ∧ password = none) →
    ((∃ report, outcome = .ok report) ↔ ∃ key, decoded = .ok key)
  fails_iff : ¬ (info.isEncrypted = true ∧ password = none) → ∀ cause,
    outcome = .error cause ↔ ∃ fault, decoded = .error fault ∧ .key fault = cause
  reports : ¬ (info.isEncrypted = true ∧ password = none) → ∀ key, decoded = .ok key →
    ∃ report, outcome = .ok report ∧ report.decoded = true ∧ report.keySize = some key.keySize ∧
      report.info = { info with algorithm := some key.algorithm }

theorem KeyInspection.followsDecoding {request : KeyInspection} {material : Bytes} {info : Key.Info}
    {password : Option Bytes} {u : σ}
    (hsource : (readSource console request.file).runFrom s = (.ok material, t))
    (hinfo : Key.Info.ofFile material = .ok info)
    (hpassword : (keyPassword console request.password info).runFrom t = (.ok password, u)) :
    FollowsDecoding info password
      (Key.PrivateKey.ofFile material password request.decoding)
      ((request.run console).runFrom s).1 := by
  have hrun : (request.run console).runFrom s =
      ((reportKey material info password request.decoding).mapError .key, u) := by
    unfold run
    rw [Session.runFrom_bind_of_ok hsource, hinfo]
    exact Session.runFrom_bind_of_ok hpassword
  rw [hrun]
  unfold reportKey
  dsimp only
  split
  · next hundecoded =>
      exact ⟨fun _ _ => ⟨_, rfl, rfl, rfl⟩, absurd hundecoded, absurd hundecoded, absurd hundecoded⟩
  · next hdecoded =>
      refine ⟨fun hencrypted hnone => absurd ⟨hencrypted, hnone⟩ hdecoded, fun _ => ?_,
        fun _ cause => ?_, fun _ key hkey => ?_⟩
      · simp only [Outcome.mapError_eq_ok_iff, Outcome.map_eq_ok_iff]
        constructor
        · rintro ⟨report, key, hkey, -⟩
          exact ⟨key, hkey⟩
        · rintro ⟨key, hkey⟩
          exact ⟨_, key, hkey, rfl⟩
      · simp only [Outcome.mapError_eq_error_iff, Outcome.map_eq_error_iff]
      · rw [hkey]
        exact ⟨_, rfl, rfl, rfl, rfl⟩

/-! ## Main result -/

/-- A check of a store and an inspection of a key have no failures of their own. A check, also if it
takes the report apart into queries, succeeds exactly if the load does and reports what is loaded.
An inspection succeeds exactly if the key decodes, unless there is no password for an encrypted one,
and what decodes can always be inspected. -/
theorem reports_fail_only_with_load (console : Console (StateM σ)) (material certificates : Bytes) :
    (∀ (request : StoreCheck) (outOfReach : Error) (protection : Protection) (s t : σ),
      console.Holds request.config.keyPath material →
      console.Holds request.config.certificatePath certificates →
      (protectionOf console request.password).runFrom s = (.ok protection, t) →
      request.runStepwise console outOfReach = request.run console ∧
      request.FollowsLoad material certificates
        (loadFrom console (.fresh request.config protection) t).1.1
        ((request.run console).runFrom s).1) ∧
    (∀ (request : KeyInspection) (info : Key.Info) (password : Option Bytes) (s t u : σ),
      (readSource console request.file).runFrom s = (.ok material, t) →
      Key.Info.ofFile material = .ok info →
      (keyPassword console request.password info).runFrom t = (.ok password, u) →
      KeyInspection.FollowsDecoding info password
        (Key.PrivateKey.ofFile material password request.decoding)
        ((request.run console).runFrom s).1) ∧
    (∀ password options key, Key.PrivateKey.ofFile material password options = .ok key →
      ∃ info, Key.Info.ofFile material = .ok info) := by
  refine ⟨?_, ?_, ?_⟩
  · intro request outOfReach protection s t hkey hcertificates hprotection
    exact ⟨request.runStepwise_eq console outOfReach,
      StoreCheck.followsLoad hkey hcertificates hprotection⟩
  · intro request info password s t u hsource hinfo hpassword
    exact KeyInspection.followsDecoding hsource hinfo hpassword
  · intro password options key hdecodes
    obtain ⟨-, info, -, -, hinfo⟩ := Key.PrivateKey.exists_info_of_ofFile hdecodes
    exact ⟨info, hinfo⟩

/-! ## A console with two files -/

/-- A console with a key in the clear and a certificate. -/
def sampleConsole : Console (StateM Unit) where
  content path := pure (.ok (if path = Store.sampleConfig.keyPath then Store.clearSample
    else Store.certificateSample))
  permissions _ := pure .ownerOnly
  now := pure ⟨0, 0⟩
  environment _ := pure none
  readInput := pure Store.sealedSample
  readLine := pure []
  showPrompt _ := pure ()

/-- A check of the store with both files, and an inspection of the encrypted key on the input for
which there is no password. -/
theorem reports_fail_only_with_load_sample :
    (∃ report,
      ((StoreCheck.run ⟨Store.sampleConfig, .prompt, .text⟩ sampleConsole).runFrom ()).1 =
        .ok report ∧ report.name = "server") ∧
    ∃ report,
      ((KeyInspection.run ⟨none, .json, .prompt, none⟩ sampleConsole).runFrom ()).1 = .ok report ∧
        report.decoded = false := by
  have hentry : (entryFrom sampleConsole (.fresh Store.sampleConfig .interactive) ()).1.1.map
      (fun _ => ()) = .ok () := by
    decide +kernel
  obtain ⟨entry, hentry, -⟩ := Outcome.map_eq_ok_iff.1 hentry
  have hload : (loadFrom sampleConsole (.fresh Store.sampleConfig .interactive) ()).1.1 =
      .ok .done := by
    rw [loadFrom_eq, hentry]
    rfl
  obtain ⟨info, hinfo, hencrypted⟩ : ∃ info, Key.Info.ofFile Store.sealedSample = .ok info ∧
      info.isEncrypted = true := ⟨_, rfl, rfl⟩
  obtain ⟨hcheck, -, -⟩ := reports_fail_only_with_load sampleConsole Store.clearSample
    Store.certificateSample
  obtain ⟨-, hinspect, -⟩ := reports_fail_only_with_load sampleConsole Store.sealedSample []
  obtain ⟨-, hfollows⟩ := hcheck ⟨Store.sampleConfig, .prompt, .text⟩ (.missingVariable "")
    .interactive () () (fun _ => rfl) (fun _ => rfl) rfl
  have hdecoding := hinspect ⟨none, .json, .prompt, none⟩ info none () () () rfl hinfo
    (by unfold keyPassword; rw [if_pos hencrypted]; rfl)
  obtain ⟨report, hreport⟩ := hfollows.succeeds_iff.2 hload
  obtain ⟨-, -, -, -, hname, -⟩ := hfollows.reports report hreport
  obtain ⟨shown, hshown, hundecoded, -⟩ := hdecoding.undecoded hencrypted rfl
  exact ⟨⟨report, hreport, hname⟩, shown, hshown, hundecoded⟩

end Credential.Command
