import Credential.Proofs.Key.Inspection
import Credential.Proofs.Store.InteractiveLoad

/-!
# A loaded store is a map with a single entry

`loaded_store_is_single_entry_map`: in every environment, once a session on a fresh store has loaded
an entry, every operation gets the answer of a read-only map from the alias to the content of the
key file and the certificates (`SingleEntryMap`), whatever was asked before and whatever becomes of
the files.

What a load has verified is known from its last attempt (`Verified`): the key file was read and
decoded under the password that was accepted, and the certificates were read after that. A query for
the key decodes the content that was kept once more, so it has the same outcome under that password.

One step of a session keeps the entry and answers from it (`Performed.respond_of_loaded`,
`Performed.kept`), so all steps after it do (`Follows.respond_of_loaded`), and the events of a
session that has an entry are those of one load that succeeded (`Follows.ends_of_loaded`).
-/

namespace Credential.Store

open Calendar (Timestamp)

variable {config : Config} {protection : Protection} {attempt : Nat} {material : Bytes}
  {events proof : List Event} {entry : Entry} {store after : KeyStore} {operation : Operation}
  {outcome : Outcome Error Response} {step : Step} {steps : List Step}

/-! ## What a load has verified -/

/-- The password that an attempt accepts: the fixed one, none for a key that asks for none, or the
answer to the prompt. -/
inductive Accepted (config : Config) (attempt : Nat) (material : Bytes) :
    Protection → List Event → Option Bytes → Prop
  | fixed (octets : Bytes) :
      Accepted config attempt material (.password octets) [] (fixedPassword octets)
  | free : Key.PrivateKey.ofFile material none config.options ≠ .error .noPasswordProvided →
      Accepted config attempt material .interactive [] none
  | asked (octets : Bytes) :
      Key.PrivateKey.ofFile material none config.options = .error .noPasswordProvided →
      Accepted config attempt material .interactive
        [.askPassword (promptOf config material attempt) (.password octets)] (some octets)

/-- What is known of an entry that a load has ended in after some events. The last of them are those
of the attempt that succeeded: the key file was read, the password of the attempt decodes it, and
the certificates were read. -/
structure Verified (config : Config) (protection : Protection) (events : List Event) (entry : Entry)
    (password : Option Bytes) (key : Key.PrivateKey) : Prop where
  name : entry.name = config.entryAlias
  reads : ∃ refused attempt permissions proof certificates,
    events = refused ++ .readFile config.keyPath (.ok entry.material) ::
      .permissions config.keyPath permissions ::
        (proof ++ [.readFile config.certificatePath (.ok certificates), .now entry.createdAt]) ∧
    Accepted config attempt entry.material protection proof password ∧
    X509.Chain.ofFile certificates = .ok entry.chain
  decodes : Key.PrivateKey.ofFile entry.material password config.options = .ok key

theorem exists_key_of_decoded {password : Option Bytes}
    (h : decoded config material password = .ok ()) :
    ∃ key, Key.PrivateKey.ofFile material password config.options = .ok key := by
  obtain ⟨key, hkey, -⟩ := Outcome.map_eq_ok_iff.1 h
  exact ⟨key, Outcome.mapError_eq_ok_iff.1 hkey⟩

/-- The password of an attempt that decodes the key. -/
theorem Proves.accepted (h : Proves config attempt material protection proof (.ok ())) :
    ∃ password key, Accepted config attempt material protection proof password ∧
      Key.PrivateKey.ofFile material password config.options = .ok key := by
  generalize hproven : (.ok () : Outcome LoadError Unit) = proven at h
  cases h with
  | fixed octets =>
      obtain ⟨key, hkey⟩ := exists_key_of_decoded hproven.symm
      exact ⟨_, key, .fixed octets, hkey⟩
  | free hn =>
      obtain ⟨key, hkey⟩ := exists_key_of_decoded hproven.symm
      exact ⟨_, key, .free hn, hkey⟩
  | asked answer hn =>
      cases answer with
      | password octets =>
          obtain ⟨key, hkey⟩ := exists_key_of_decoded hproven.symm
          exact ⟨_, key, .asked octets hn, hkey⟩
      | cancelled => cases hproven
      | abandoned => cases hproven

theorem verified_of_ends (h : (loadEntry config protection).Ends events (.ok entry)) :
    ∃ password key, Verified config protection events entry password key := by
  obtain ⟨refusals, last, rfl, -, -, hlast, -⟩ := loadEntry_ends h
  cases hlast with
  | @opened material permissions proof certificates proven _ ha hproves hcompletes =>
      cases hcompletes with
      | proved hcertifies =>
          cases hcertifies with
          | valid createdAt hchain =>
              obtain ⟨password, key, haccepted, hdecodes⟩ := hproves.accepted
              exact ⟨password, key, rfl, ⟨_, _, _, _, _, rfl, haccepted, hchain⟩, hdecodes⟩

/-! ## Answers -/

/-- The answers of a read-only map whose single entry has the alias `name`. The key is decoded anew
for each query, with the password of the query. -/
structure SingleEntryMap (options : Key.Options) (name : String) (material : Bytes)
    (chain : X509.Chain) (createdAt : Timestamp) (answer : Query → Outcome Error Response) :
    Prop where
  load : answer .load = .ok .done
  aliases : answer .aliases = .ok (.names [name])
  size : answer .size = .ok (.count 1)
  containsAlias : ∀ a, answer (.containsAlias a) = .ok (.flag (decide (a = name)))
  isKeyEntry : ∀ a, answer (.isKeyEntry a) = .ok (.flag (decide (a = name)))
  isCertificateEntry : ∀ a, answer (.isCertificateEntry a) = .ok (.flag false)
  certificateChain : ∀ a,
    answer (.certificateChain a) = .ok (.chain (if a = name then some chain else none))
  certificate : ∀ a,
    answer (.certificate a) = .ok (.certificate (if a = name then chain.toList.head? else none))
  certificateAlias : ∀ c, answer (.certificateAlias c) =
    .ok (.name (if c.der = chain.leaf.der then some name else none))
  creationDate : ∀ a,
    answer (.creationDate a) = .ok (.date (if a = name then some createdAt else none))
  otherKey : ∀ a password, a ≠ name → answer (.getKey a password) = .ok (.key none)
  key : ∀ password, answer (.getKey name password) =
    ((Key.PrivateKey.ofFile material password options).mapError .key).map fun key => .key (some key)

/-- The response of a map that is only read: a query is answered, and a change is refused. -/
def respond (answer : Query → Outcome Error Response) : Operation → Outcome Error Response
  | .query query => answer query
  | .change change => .error (.readOnly change.name)

theorem Entry.under_eq {α : Type} (entry : Entry) (name : String) (value : α) :
    entry.under name value = if name = entry.name then some value else none := by
  simp only [Entry.under, eq_comm]

theorem Entry.name_beq (entry : Entry) (name : String) :
    (entry.name == name) = decide (name = entry.name) := by
  rw [Bool.eq_iff_iff, beq_iff_eq, decide_eq_true_iff, eq_comm]

/-- The answers from an entry are those of a map with that entry. -/
theorem Entry.singleEntryMap (options : Key.Options) (entry : Entry) :
    SingleEntryMap options entry.name entry.material entry.chain entry.createdAt fun query =>
      query.answer options entry where
  load := rfl
  aliases := rfl
  size := rfl
  containsAlias := by
    intro a
    rw [Query.answer, Entry.name_beq]
  isKeyEntry := by
    intro a
    rw [Query.answer, Entry.name_beq]
  isCertificateEntry := fun _ => rfl
  certificateChain := by
    intro a
    rw [Query.answer, Entry.under_eq]
  certificate := by
    intro a
    rw [Query.answer, Entry.under_eq]
    rfl
  certificateAlias := by
    intro c
    have hsame : entry.chain.leaf.sameEncoding c = true ↔ c.der = entry.chain.leaf.der :=
      beq_iff_eq.trans eq_comm
    simp only [Query.answer, hsame]
  creationDate := by
    intro a
    rw [Query.answer, Entry.under_eq]
  otherKey := by
    intro a password hne
    exact if_neg (Ne.symm hne)
  key := by
    intro password
    exact if_pos rfl

/-- A key that decodes is what a query for it gets. -/
theorem SingleEntryMap.key_of_decodes {options : Key.Options} {name : String} {chain : X509.Chain}
    {createdAt : Timestamp} {answer : Query → Outcome Error Response}
    (h : SingleEntryMap options name material chain createdAt answer) {password : Option Bytes}
    {key : Key.PrivateKey} (hdecodes : Key.PrivateKey.ofFile material password options = .ok key) :
    answer (.getKey name password) = .ok (.key (some key)) := by
  rw [h.key, hdecodes]
  rfl

/-! ## Sessions with an entry -/

theorem KeyStore.settle_eq_loaded {load : Outcome LoadError Entry}
    (h : (store.settle load).2.state = .loaded entry) : load = .ok entry := by
  cases load with
  | ok found =>
      cases h
      rfl
  | error cause => cases h
  | aborted => cases h

/-- One operation that leaves an entry behind is answered from it. -/
theorem Performed.respond_of_loaded (h : Performed store operation events outcome after)
    (hs : after.state = .loaded entry) :
    outcome = respond (fun query => query.answer store.config.options entry) operation := by
  cases h with
  | refused change => rfl
  | answered query hloaded =>
      rw [hs] at hloaded
      cases hloaded
      rfl
  | failed query hfailed =>
      rw [hs] at hfailed
      cases hfailed
  | loads query hunloaded hload =>
      rw [KeyStore.settle_eq_loaded hs]
      rfl

/-- All operations after one that leaves an entry behind are answered from it, and change
nothing. -/
theorem Follows.respond_of_loaded {first rest : List Step} {later : Step}
    (h : Follows store (first ++ step :: rest)) (hs : step.after.state = .loaded entry)
    (hmem : later ∈ rest) :
    later.outcome =
        respond (fun query => query.answer store.config.options entry) later.operation ∧
      later.after = step.after ∧ later.events = [] := by
  have hasked : step.after.state ≠ .unloaded := by
    rw [hs]
    exact State.noConfusion
  obtain ⟨-, hevents, hafter⟩ := h.rest.kept hasked hmem
  obtain ⟨hp, hconfig, -⟩ :=
    h.performed (List.mem_append_right first (List.mem_cons_of_mem step hmem))
  rw [← hafter] at hs
  rw [← hconfig]
  exact ⟨hp.respond_of_loaded hs, hafter, hevents⟩

/-- The events of a row in which an entry comes up are those of the load that ended in it. -/
theorem Follows.ends_of_loaded (h : Follows store steps) (hunloaded : store.state = .unloaded)
    (hmem : step ∈ steps) (hs : step.after.state = .loaded entry) :
    (loadEntry store.config store.protection).Ends (trace steps) (.ok entry) := by
  have hbefore : step.after ≠ store := by
    intro hsame
    rw [hsame, hunloaded] at hs
    cases hs
  rcases h.load_cases with ⟨-, hall⟩ | ⟨load, hload, hall⟩
  · exact absurd (hall step hmem) hbefore
  · rcases hall step hmem with hsame | hafter
    · exact absurd hsame hbefore
    · rw [hafter] at hs
      rw [KeyStore.settle_eq_loaded hs] at hload
      exact hload

/-! ## Main result -/

/-- A key file that shows no encryption. -/
theorem isEncrypted_eq_false_of_shownEncryption (h : shownEncryption material = none)
    (info : Key.Info) (hinfo : Key.Info.ofFile material = .ok info) : info.isEncrypted = false := by
  unfold shownEncryption at h
  rw [hinfo] at h
  have hnone : info.encryption = none := h
  unfold Key.Info.isEncrypted
  rw [hnone]
  rfl

/-- After a load that ended in an entry, a store answers as a read-only map with that entry does,
for every sequence of operations and in every environment. The key is there under the password that
the load accepted, and under every password if the key file shows no encryption. -/
theorem loaded_store_is_single_entry_map (config : Config) (protection : Protection)
    (env : Environment) (operations : List Operation) {first rest : List Step} {step : Step}
    {entry : Entry}
    (hsteps : session env (.fresh config protection) [] operations = first ++ step :: rest)
    (hloaded : step.after.state = .loaded entry) :
    ∃ password key answer,
      Verified config protection (trace (first ++ step :: rest)) entry password key ∧
      SingleEntryMap config.options config.entryAlias entry.material entry.chain entry.createdAt
        answer ∧
      step.outcome = respond answer step.operation ∧
      (∀ later ∈ rest, later.outcome = respond answer later.operation ∧
        later.after = step.after ∧ later.events = []) ∧
      answer (.getKey config.entryAlias password) = .ok (.key (some key)) ∧
      (shownEncryption entry.material = none →
        ∀ other, answer (.getKey config.entryAlias other) = .ok (.key (some key))) := by
  have hrow := session_follows env (.fresh config protection) [] operations
  rw [hsteps] at hrow
  have hmem : step ∈ first ++ step :: rest := List.mem_append_right first List.mem_cons_self
  obtain ⟨password, key, hverified⟩ := verified_of_ends (hrow.ends_of_loaded rfl hmem hloaded)
  have hmap := entry.singleEntryMap config.options
  rw [hverified.name] at hmap
  obtain ⟨hperformed, hconfig, -⟩ := hrow.performed hmem
  refine ⟨password, key, fun query => query.answer config.options entry, hverified, hmap, ?_, ?_,
    hmap.key_of_decodes hverified.decodes, ?_⟩
  · have hrespond := hperformed.respond_of_loaded hloaded
    rw [hconfig] at hrespond
    exact hrespond
  · intro later hlater
    exact hrow.respond_of_loaded hloaded hlater
  · intro hclear other
    exact hmap.key_of_decodes (Key.PrivateKey.ofFile_of_not_isEncrypted hverified.decodes
      (isEncrypted_eq_false_of_shownEncryption hclear) other)

/-! ## A store with a key in the clear -/

theorem KeyStore.exists_entry_of_isLoaded (h : store.isLoaded = true) :
    ∃ entry, store.state = .loaded entry := by
  unfold KeyStore.isLoaded at h
  cases hs : store.state with
  | loaded entry => exact ⟨entry, rfl⟩
  | unloaded => simp [hs] at h
  | failed cause => simp [hs] at h

/-- The PrivateKeyInfo of a DSA key. -/
def clearSample : Bytes :=
  [0x30, 0x1e, 0x02, 0x01, 0x00, 0x30, 0x14, 0x06, 0x07, 0x2a, 0x86, 0x48, 0xce, 0x38, 0x04, 0x01,
    0x30, 0x09, 0x02, 0x01, 0x17, 0x02, 0x01, 0x0b, 0x02, 0x01, 0x04, 0x04, 0x03, 0x02, 0x01, 0x05]

/-- A certificate without names. -/
def certificateSample : Bytes :=
  [0x30, 0x47, 0x30, 0x3a, 0x02, 0x01, 0x01, 0x30, 0x05, 0x06, 0x03, 0x2a, 0x03, 0x04, 0x30, 0x00,
    0x30, 0x1e, 0x17, 0x0d, 0x37, 0x30, 0x30, 0x31, 0x30, 0x31, 0x30, 0x30, 0x30, 0x30, 0x30, 0x30,
    0x5a, 0x17, 0x0d, 0x37, 0x30, 0x30, 0x31, 0x30, 0x31, 0x30, 0x30, 0x30, 0x30, 0x30, 0x30, 0x5a,
    0x30, 0x00, 0x30, 0x0a, 0x30, 0x05, 0x06, 0x03, 0x2a, 0x03, 0x04, 0x03, 0x01, 0x00, 0x30, 0x05,
    0x06, 0x03, 0x2a, 0x03, 0x04, 0x03, 0x02, 0x00, 0xff]

/-- A load, an attempt to delete the entry, and a query for the key under a password that it does
not need. -/
def clearSession : List Step :=
  session (scripted sampleConfig clearSample certificateSample sampleAnswers)
    (.fresh sampleConfig .none) []
    [.query .load, .change (.deleteEntry "server"), .query (.getKey "server" (some [1]))]

/-- The outcomes of that session are those of a map. -/
theorem loaded_store_is_single_entry_map_clear :
    ∃ entry password key answer,
      Verified sampleConfig .none (trace clearSession) entry password key ∧
      SingleEntryMap sampleConfig.options "server" entry.material entry.chain entry.createdAt
        answer ∧
      clearSession.map Step.outcome =
        [.ok .done, .error (.readOnly "delete_entry"), answer (.getKey "server" (some [1]))] := by
  obtain ⟨step, deletion, lookup, hsteps⟩ :
      ∃ step deletion lookup, clearSession = [] ++ step :: [deletion, lookup] := ⟨_, _, _, rfl⟩
  have hloads : clearSession.head?.map (fun step => step.after.isLoaded) = some true := by
    decide +kernel
  have hoperations : clearSession.map Step.operation =
      [.query .load, .change (.deleteEntry "server"), .query (.getKey "server" (some [1]))] :=
    session_operations _ _ _ _
  rw [hsteps] at hloads hoperations
  obtain ⟨entry, hloaded⟩ := KeyStore.exists_entry_of_isLoaded (Option.some.inj hloads)
  obtain ⟨password, key, answer, hverified, hmap, hfirst, hrest, -, -⟩ :=
    loaded_store_is_single_entry_map _ _ _ _ hsteps hloaded
  have hdeletion := (hrest deletion (by simp)).1
  have hlookup := (hrest lookup (by simp)).1
  simp only [List.nil_append, List.map_cons, List.map_nil, List.cons.injEq, and_true] at hoperations
  obtain ⟨hfirstOperation, hdeletionOperation, hlookupOperation⟩ := hoperations
  rw [hfirstOperation] at hfirst
  rw [hdeletionOperation] at hdeletion
  rw [hlookupOperation] at hlookup
  refine ⟨entry, password, key, answer, ?_, hmap, ?_⟩
  · rw [hsteps]
    exact hverified
  · rw [hsteps]
    simp only [List.nil_append, List.map_cons, List.map_nil, hfirst, hdeletion, hlookup, respond,
      hmap.load]
    rfl

end Credential.Store
