import Credential.Proofs.Store.LoadRun
import Credential.Proofs.Store.Session

/-!
# What an interactive load ends in

On a host whose files do not change (`Steady`) the load of an interactive store is determined by the
key file, the certificates and the answers of the callback. A key that decodes without a password,
or that no password helps, asks nobody. Otherwise the first answer that is not a wrong password
decides, if it comes in time, and else the last wrong one does (`interactive_load_outcome`).

A load is a list of refusals and the attempt after them (`loadEntry_ends`). Under a steady host the
passwords of the refusals are the first answers (`wrong_of_gives`), and the attempt after them gets
the next one (`Attempted.of_steady`).
-/

namespace Credential.Store

variable {config : Config} {env : Environment} {key certificates : Bytes}
  {answers : Nat → Answer} {history events last : List Event}
  {load : Outcome LoadError Entry} {attempt : Nat}

/-! ## Hosts and answers -/

/-- A host on which both files can be read and never change, the permissions of the key file are
good enough, and the callback gives the answers in order, the first of which has number one. -/
structure Steady (env : Environment) (config : Config) (key certificates : Bytes)
    (answers : Nat → Answer) : Prop where
  reads_key : ∀ history, env.content history config.keyPath = .ok key
  reads_certificates : ∀ history, env.content history config.certificatePath = .ok certificates
  allowed : ∀ history, config.allows (env.permissions history config.keyPath)
  answers_in_order : ∀ history prompt,
    env.askPassword history prompt = answers (promptCount history + 1)

/-- Whether the key file asks for a password. -/
def NeedsPassword (config : Config) (key : Bytes) : Prop :=
  ∃ cause, Key.PrivateKey.ofFile key none config.options = .error cause ∧
    cause.kind = .noPasswordProvided

/-- What a load ends in after the key was decoded: the failure of that, or what the certificates
make of it. -/
def EndsAfter (config : Config) (key certificates : Bytes) :
    Outcome Key.Error Key.PrivateKey → Outcome LoadError Entry → Prop
  | .ok _, load =>
    match X509.Chain.ofFile certificates with
    | .ok chain => ∃ createdAt, load = .ok ⟨config.entryAlias, key, chain, createdAt⟩
    | .error cause => load = .error (.certificate cause)
  | .error cause, load => load = .error (.key cause)
  | .aborted, load => load = .aborted

/-- What a load ends in after the answer that decides. -/
def EndsAfterAnswer (config : Config) (key certificates : Bytes) :
    Answer → Outcome LoadError Entry → Prop
  | .password password, load =>
    EndsAfter config key certificates
      (Key.PrivateKey.ofFile key (some password) config.options) load
  | .cancelled, load => load = .error (.key .noPasswordProvided)
  | .abandoned, load => load = .aborted

theorem needsPassword_iff : NeedsPassword config key ↔
    Key.PrivateKey.ofFile key none config.options = .error .noPasswordProvided := by
  constructor
  · rintro ⟨cause, hd, hk⟩
    rw [hd, (Key.Error.kind_eq_noPasswordProvided_iff cause).1 hk]
  · intro hd
    exact ⟨.noPasswordProvided, hd, rfl⟩

/-- After a wrong password a load ends in one. -/
theorem EndsAfterAnswer.eq_of_wrong {answer : Answer} (hw : Wrong config key answer)
    (h : EndsAfterAnswer config key certificates answer load) :
    load = .error (.key .badPassword) := by
  obtain ⟨password, cause, rfl, hd, hk⟩ := hw
  rw [(Key.Error.kind_eq_badPassword_iff cause).1 hk] at hd
  rw [EndsAfterAnswer, hd] at h
  exact h

/-! ## One attempt on a steady host -/

@[simp] theorem promptCount_append (first second : List Event) :
    promptCount (first ++ second) = promptCount first + promptCount second :=
  List.countP_append

theorem Completes.promptCount_eq {proven : Outcome LoadError Unit}
    (h : Completes config key proven events load) : promptCount events = 0 := by
  rw [← length_exchanges config.keyPath none, h.exchanges_eq none]
  rfl

/-- The certificates decide what becomes of a key that decodes. -/
theorem Completes.of_steady (hs : Steady env config key certificates answers)
    {password : Option Bytes} (h : Completes config key (decoded config key password) events load)
    (hg : env.Gives history events) :
    EndsAfter config key certificates (Key.PrivateKey.ofFile key password config.options) load := by
  unfold decoded at h
  cases hd : Key.PrivateKey.ofFile key password config.options with
  | ok decodedKey =>
      rw [hd] at h
      have hproved : Completes config key (.ok ()) events load := h
      unfold EndsAfter
      cases hproved with
      | proved hc =>
          cases hc with
          | unread cause =>
              have hread := hg.1
              rw [Environment.Answers, hs.reads_certificates] at hread
              cases hread
          | invalid he =>
              have hread := hg.1
              rw [Environment.Answers, hs.reads_certificates] at hread
              cases hread
              rw [he]
          | valid createdAt he =>
              have hread := hg.1
              rw [Environment.Answers, hs.reads_certificates] at hread
              cases hread
              rw [he]
              exact ⟨createdAt, rfl⟩
  | error cause =>
      rw [hd] at h
      have hunproved : Completes config key (.error (.key cause)) events load := h
      cases hunproved with
      | unproved => rfl
  | aborted =>
      rw [hd] at h
      have haborted : Completes config key .aborted events load := h
      cases haborted with
      | aborted => rfl

/-- The callback gives the next answer. -/
theorem Proves.of_steady (hs : Steady env config key certificates answers)
    {proven : Outcome LoadError Unit}
    (h : Proves config attempt key .interactive events proven)
    (hg : env.Gives history (events ++ last)) :
    ¬ NeedsPassword config key ∧ promptCount events = 0 ∧ proven = decoded config key none ∨
      NeedsPassword config key ∧ promptCount events = 1 ∧
        proven = answered config key (answers (promptCount history + 1)) := by
  cases h with
  | free hn => exact Or.inl ⟨fun hneeds => hn (needsPassword_iff.1 hneeds), rfl, rfl⟩
  | asked answer hn =>
      have hanswer := hg.1
      rw [Environment.Answers, hs.answers_in_order] at hanswer
      rw [hanswer]
      exact Or.inr ⟨needsPassword_iff.2 hn, rfl, rfl⟩

/-- An attempt on a steady host asks for a password if and only if the key file does, and then the
next answer decides. -/
theorem Attempted.of_steady (hs : Steady env config key certificates answers)
    (h : Attempted config .interactive attempt events load) (hg : env.Gives history events) :
    ¬ NeedsPassword config key ∧ promptCount events = 0 ∧ EndsAfter config key certificates
      (Key.PrivateKey.ofFile key none config.options) load ∨
    NeedsPassword config key ∧ promptCount events = 1 ∧
      EndsAfterAnswer config key certificates (answers (promptCount history + 1)) load := by
  cases h with
  | unread cause =>
      have hread := hg.1
      rw [Environment.Answers, hs.reads_key] at hread
      cases hread
  | exposed material mode hr =>
      have hmode := hg.2.1
      have hallowed := hs.allowed (history ++ [.readFile config.keyPath (.ok material)])
      rw [Environment.Answers] at hmode
      rw [← hmode, Config.allows, hr] at hallowed
      cases hallowed
  | @opened material permissions proof certs proven _ ha hp hc =>
      have hread := hg.1
      rw [Environment.Answers, hs.reads_key] at hread
      cases hread
      have hrest := hg.2.2
      have hcerts := ((env.gives_append_iff _ proof certs).1 hrest).2
      have hcount : promptCount (.readFile config.keyPath (.ok key) ::
          .permissions config.keyPath permissions :: (proof ++ certs)) = promptCount proof := by
        rw [← Nat.add_zero (promptCount proof), ← hc.promptCount_eq, ← promptCount_append]
        rfl
      have hbefore : promptCount (history ++ [.readFile config.keyPath (.ok key)] ++
          [.permissions config.keyPath permissions]) = promptCount history := by
        rw [promptCount_append, promptCount_append]
        rfl
      rw [hcount]
      -- the key decodes as it does without a password, or with the next answer
      rcases hp.of_steady hs hrest with ⟨hneeds, hasked, rfl⟩ | ⟨hneeds, hasked, rfl⟩
      · exact Or.inl ⟨hneeds, hasked, hc.of_steady hs hcerts⟩
      · rw [hbefore] at hc
        refine Or.inr ⟨hneeds, hasked, ?_⟩
        cases ha : answers (promptCount history + 1) with
        | password octets =>
            rw [ha] at hc
            exact Completes.of_steady hs hc hcerts
        | cancelled =>
            rw [ha] at hc
            have hunproved :
                Completes config key (.error (.key .noPasswordProvided)) certs load := hc
            cases hunproved with
            | unproved => rfl
        | abandoned =>
            rw [ha] at hc
            have haborted : Completes config key .aborted certs load := hc
            cases haborted with
            | aborted => rfl

/-! ## The whole load -/

/-- On a steady host the passwords of refusals are the next answers. -/
theorem wrong_of_gives (hs : Steady env config key certificates answers) (refusals : List Refusal)
    (hall : ∀ refusal ∈ refusals, refusal.Holds config) (hcount : promptCount history + 1 = attempt)
    (hg : env.Gives history (refusedEvents config attempt refusals)) :
    (∀ j, attempt ≤ j → j < attempt + refusals.length → Wrong config key (answers j)) ∧
      (refusals ≠ [] → NeedsPassword config key) ∧
      promptCount (refusedEvents config attempt refusals) = refusals.length := by
  induction refusals generalizing attempt history with
  | nil =>
      refine ⟨?_, fun h => absurd rfl h, rfl⟩
      intro j hle hlt
      rw [List.length_nil] at hlt
      omega
  | cons refusal refusals ih =>
      rw [refusedEvents] at hg
      obtain ⟨hfirst, hrest⟩ := (env.gives_append_iff _ _ _).1 hg
      have hone : promptCount (refusal.trace config attempt) = 1 := rfl
      have hnext : promptCount (history ++ refusal.trace config attempt) + 1 = attempt + 1 := by
        rw [promptCount_append, hone, hcount]
      obtain ⟨hwrong, -, hrefused⟩ :=
        ih (fun refusal' hmem => hall refusal' (List.mem_cons_of_mem _ hmem)) hnext hrest
      have hholds := hall refusal List.mem_cons_self
      -- the first refusal is about the key file and the next answer
      have hread := hfirst.1
      rw [Environment.Answers, hs.reads_key] at hread
      have hmaterial : refusal.material = key := by
        cases hread
        rfl
      have hanswer := hfirst.2.2.1
      rw [Environment.Answers, hs.answers_in_order] at hanswer
      rw [promptCount_append, promptCount_append] at hanswer
      have hnow : .password refusal.password = answers attempt := by
        rw [← hcount]
        exact hanswer
      refine ⟨?_, ?_, ?_⟩
      · intro j hle hlt
        rw [List.length_cons] at hlt
        by_cases hj : j = attempt
        · rw [hj, ← hnow, ← hmaterial]
          exact hholds.wrong
        · exact hwrong j (by omega) (by omega)
      · intro _
        rw [needsPassword_iff, ← hmaterial]
        exact hholds.1
      · rw [refusedEvents, promptCount_append, hone, hrefused, List.length_cons, Nat.add_comm]

/-- The course of a load on a steady host: some wrong answers, and the attempt after them. -/
theorem course_of_ends (hs : Steady env config key certificates answers)
    (h : (loadEntry config .interactive).Ends events load) (hg : env.Gives [] events) :
    ¬ NeedsPassword config key ∧ promptCount events = 0 ∧
        EndsAfter config key certificates (Key.PrivateKey.ofFile key none config.options) load ∨
      NeedsPassword config key ∧ ∃ refused, refused < config.attempts ∧
        promptCount events = refused + 1 ∧
        (∀ j, 1 ≤ j → j ≤ refused → Wrong config key (answers j)) ∧
        EndsAfterAnswer config key certificates (answers (refused + 1)) load ∧
        (load = .error (.key .badPassword) → refused + 1 = config.attempts) := by
  obtain ⟨refusals, last, rfl, hall, hlt, hlast, hused⟩ := loadEntry_ends h
  obtain ⟨hfirst, hrest⟩ := (env.gives_append_iff _ _ _).1 hg
  have hstart : promptCount [] + 1 = 1 := rfl
  obtain ⟨hwrong, hneeds, hcount⟩ := wrong_of_gives hs refusals hall hstart hfirst
  rw [promptCount_append, hcount]
  rcases hlast.of_steady hs hrest with ⟨hfree, hasked, hends⟩ | ⟨hasks, hasked, hends⟩
  · -- a key that needs no password refuses none
    have hnil : refusals = [] := by
      cases refusals with
      | nil => rfl
      | cons refusal refusals => exact absurd (hneeds (List.cons_ne_nil _ _)) hfree
    rw [hnil, hasked]
    exact Or.inl ⟨hfree, rfl, hends⟩
  · refine Or.inr ⟨hasks, refusals.length, hlt, ?_, ?_, ?_, ?_⟩
    · rw [hasked]
    · intro j hle hj
      exact hwrong j hle (by omega)
    · rw [List.nil_append, hcount] at hends
      exact hends
    · exact hused rfl

/-- A query of a store that nothing was asked of yet: the number of prompts, and what the load ends
in, which the store keeps. -/
def FirstQuery (env : Environment) (config : Config) (query : Query) (prompts : Nat)
    (load : Outcome LoadError Entry) : Prop :=
  let store := KeyStore.fresh config .interactive
  let run := env.run (store.perform (.query query)) []
  promptCount run.2 = prompts ∧
    run.1 = ((store.settle load).1.bind (query.answer config.options), (store.settle load).2)

/-- The first query of a store runs the load. -/
theorem firstQuery_ends (env : Environment) (config : Config) (query : Query) :
    ∃ events load, (loadEntry config .interactive).Ends events load ∧ env.Gives [] events ∧
      FirstQuery env config query (promptCount events) load := by
  obtain ⟨events, hrun, hends, hgives⟩ :=
    env.run_ends ((KeyStore.fresh config .interactive).perform (.query query)) []
  obtain ⟨load, hload, houtcome, hafter⟩ := (performed_of_ends hends).of_unloaded rfl
  refine ⟨events, load, hload, hgives, ?_, ?_⟩
  · rw [hrun]
    rfl
  · exact Prod.ext houtcome hafter

/-- What the load of an interactive store ends in on a steady host. -/
theorem interactive_load_outcome (hs : Steady env config key certificates answers) (query : Query) :
    (¬ NeedsPassword config key → ∃ load, FirstQuery env config query 0 load ∧
      EndsAfter config key certificates (Key.PrivateKey.ofFile key none config.options) load) ∧
    (NeedsPassword config key → ∀ i, 1 ≤ i → i ≤ config.attempts →
      (∀ j, 1 ≤ j → j < i → Wrong config key (answers j)) → ¬ Wrong config key (answers i) →
      ∃ load, FirstQuery env config query i load ∧
        EndsAfterAnswer config key certificates (answers i) load) ∧
    (NeedsPassword config key →
      (∀ i, 1 ≤ i → i ≤ config.attempts → Wrong config key (answers i)) →
      FirstQuery env config query config.attempts (.error (.key .badPassword))) := by
  obtain ⟨events, load, hends, hgives, hfirst⟩ := firstQuery_ends env config query
  rcases course_of_ends hs hends hgives with
    ⟨hfree, hcount, hload⟩ | ⟨hneeds, refused, hlt, hcount, hwrong, hload, hused⟩
  · rw [hcount] at hfirst
    refine ⟨fun _ => ⟨load, hfirst, hload⟩, ?_, ?_⟩
    · intro hneeds
      exact absurd hneeds hfree
    · intro hneeds
      exact absurd hneeds hfree
  · -- the only answer that can decide is the one after the wrong ones
    rw [hcount] at hfirst
    refine ⟨?_, ?_, ?_⟩
    · intro hfree
      exact absurd hneeds hfree
    · intro _ i hpos hle hbefore hright
      have hnotbefore : ¬ i ≤ refused := by
        intro hi
        exact hright (hwrong i hpos hi)
      have hnotafter : ¬ refused + 1 < i := by
        intro hi
        have hlast := hload.eq_of_wrong (hbefore (refused + 1) (by omega) hi)
        have := hused hlast
        omega
      have hi : i = refused + 1 := by omega
      rw [hi]
      exact ⟨load, hfirst, hload⟩
    · intro _ hall
      have hlast := hload.eq_of_wrong (hall (refused + 1) (by omega) (by omega))
      rw [hused hlast, hlast] at hfirst
      exact hfirst

/-! ## A scripted host -/

/-- A host with fixed files that gives the answers in order. -/
def scripted (config : Config) (key certificates : Bytes) (answers : Nat → Answer) :
    Environment where
  content _ path := .ok (if path = config.keyPath then key else certificates)
  permissions _ _ := .ownerOnly
  askPassword history _ := answers (promptCount history + 1)
  now _ := ⟨0, 0⟩

theorem steady_scripted (config : Config) (key certificates : Bytes) (answers : Nat → Answer)
    (hpaths : config.certificatePath ≠ config.keyPath) :
    Steady (scripted config key certificates answers) config key certificates answers where
  reads_key := by
    intro history
    simp [scripted]
  reads_certificates := by
    intro history
    simp [scripted, hpaths]
  allowed := fun _ => trivial
  answers_in_order := fun _ _ => rfl

/-- A store with the defaults of the optional settings. -/
def sampleConfig : Config := {
  entryAlias := "server"
  keyPath := "server.key"
  certificatePath := "server.pem" }

/-- A key file under pbeWithSHAAnd3-KeyTripleDES-CBC, which reads passwords as text. -/
def sealedSample : Bytes :=
  [0x30, 0x1c, 0x30, 0x16, 0x06, 0x0a, 0x2a, 0x86, 0x48, 0x86, 0xf7, 0x0d, 0x01, 0x0c, 0x01,
    0x03, 0x30, 0x08, 0x04, 0x03, 0x01, 0x02, 0x03, 0x02, 0x01, 0x05, 0x04, 0x02, 0x07, 0x08]

/-- First octets that are no text, and then no password any more. -/
def sampleAnswers : Nat → Answer
  | 1 => .password [0xff]
  | _ => .cancelled

/-- One wrong password and then none: the callback is asked twice, and the load ends in the second
answer. -/
theorem interactive_load_cancelled :
    FirstQuery (scripted sampleConfig sealedSample [] sampleAnswers) sampleConfig .load 2
      (.error (.key .noPasswordProvided)) := by
  have hsteady := steady_scripted sampleConfig sealedSample [] sampleAnswers (by decide)
  have hneeds : NeedsPassword sampleConfig sealedSample := ⟨.noPasswordProvided, rfl, rfl⟩
  have hwrong : ∀ j, 1 ≤ j → j < 2 → Wrong sampleConfig sealedSample (sampleAnswers j) := by
    intro j hle hlt
    have hj : j = 1 := by omega
    rw [hj]
    exact ⟨[0xff], .badPassword, rfl, rfl, rfl⟩
  have hright : ¬ Wrong sampleConfig sealedSample (sampleAnswers 2) := by
    rintro ⟨password, cause, hanswer, -, -⟩
    cases hanswer
  obtain ⟨load, hfirst, hload⟩ := (interactive_load_outcome hsteady .load).2.1 hneeds 2
    (by decide) (by decide) hwrong hright
  rw [← (show load = .error (.key .noPasswordProvided) from hload)]
  exact hfirst

end Credential.Store
