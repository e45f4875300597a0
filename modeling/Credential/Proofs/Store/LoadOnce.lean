import Credential.Proofs.Store.LoadRun
import Credential.Proofs.Store.Session

/-!
# A store loads once

`load_once` is about every sequence of operations on a store that nothing was asked of yet, in every
environment: files and permissions may change between any two requests, and the callback may answer
anything or break down. At most one operation runs the load; what the load ends in is kept, and from
then on nothing changes, no file is read and nobody is asked.

The callback is asked in a disciplined way (`Disciplined`): at most as often as the configuration
allows, with consecutive numbers, and again only after a wrong password. This is a property of one
load (`disciplined_of_ends`), and all events of a session are those of one load.

A failure of the load is a `LoadError`, so what `Error.loadFailed` carries is never one itself.
-/

namespace Credential.Store

variable {config : Config} {protection : Protection} {store after : KeyStore}
  {events : List Event} {step : Step} {steps : List Step}

/-! ## The callback -/

/-- Whether the answer to a prompt is a password that the key file blames, as it was read last. -/
def Exchange.Refused (config : Config) (exchange : Exchange) : Prop :=
  ∃ material, exchange.material = some material ∧ Wrong config material exchange.answer

/-- How a callback is asked: a few times, never if the password is fixed, with consecutive numbers,
and again only after a wrong password. -/
structure Disciplined (config : Config) (protection : Protection) (prompts : List Exchange) :
    Prop where
  few : prompts.length ≤ config.attempts
  unasked : protection ≠ .interactive → prompts = []
  numbered : ∀ i (h : i < prompts.length),
    prompts[i].prompt.attempt = i + 1 ∧ prompts[i].prompt.maxAttempts = config.attempts
  refused : ∀ i (h : i + 1 < prompts.length), prompts[i].Refused config

theorem Refusal.Holds.refused_exchange {refusal : Refusal} (h : refusal.Holds config)
    (attempt : Nat) : (refusal.exchange config attempt).Refused config :=
  ⟨refusal.material, rfl, h.wrong⟩

theorem disciplined_nil (config : Config) (protection : Protection) :
    Disciplined config protection [] where
  few := Nat.zero_le _
  unasked := fun _ => rfl
  numbered := fun i h => absurd h (Nat.not_lt_zero i)
  refused := fun i h => absurd h (Nat.not_lt_zero (i + 1))

/-- Refusals and perhaps one prompt after them are disciplined. -/
theorem disciplined_of_refusals {refusals : List Refusal} {tail : List Exchange}
    (hall : ∀ refusal ∈ refusals, refusal.Holds config)
    (htail : ∀ exchange ∈ tail, exchange.prompt.attempt = refusals.length + 1 ∧
      exchange.prompt.maxAttempts = config.attempts)
    (hone : tail.length ≤ 1) (hfew : refusals.length < config.attempts) :
    Disciplined config .interactive
      (refusals.mapIdx (fun i refusal => refusal.exchange config (1 + i)) ++ tail) where
  few := by
    rw [List.length_append, List.length_mapIdx]
    omega
  unasked := fun h => absurd rfl h
  numbered := by
    intro i h
    rw [List.length_append, List.length_mapIdx] at h
    -- a prompt is one of a refusal or the one after them
    by_cases hi : i < refusals.length
    · rw [List.getElem_append_left (by simpa using hi), List.getElem_mapIdx]
      exact ⟨Nat.add_comm 1 i, rfl⟩
    · have hlast : i = refusals.length := by omega
      subst hlast
      rw [List.getElem_append_right (by simp)]
      exact htail _ (List.getElem_mem _)
  refused := by
    intro i h
    rw [List.length_append, List.length_mapIdx] at h
    have hi : i < refusals.length := by omega
    rw [List.getElem_append_left (by simpa using hi), List.getElem_mapIdx]
    exact (hall _ (List.getElem_mem hi)).refused_exchange _

/-- A load asks in a disciplined way. -/
theorem disciplined_of_ends {load : Outcome LoadError Entry}
    (h : (loadEntry config protection).Ends events load) :
    Disciplined config protection (exchanges config.keyPath none events) := by
  obtain ⟨refusals, last, rfl, hall, hlt, hlast, -⟩ := loadEntry_ends h
  obtain ⟨known, he⟩ := exchanges_refusedEvents refusals last 1 none
  rw [he]
  cases protection with
  -- the only attempt with a fixed password asks nobody
  | password octets =>
      have hnil : refusals = [] := List.length_eq_zero_iff.1 (Nat.lt_one_iff.1 hlt)
      subst hnil
      rcases hlast.exchanges_eq known with hnone | ⟨material, answer, hi, -⟩
      · rw [hnone]
        exact disciplined_nil config _
      · cases hi
  | interactive =>
      have hone := hlast.exchanges_eq known
      refine disciplined_of_refusals hall ?_ ?_ hlt
      · rcases hone with hnone | ⟨material, answer, -, hlist⟩
        · rw [hnone]
          intro exchange hmem
          cases hmem
        · rw [hlist]
          intro exchange hmem
          obtain rfl := List.mem_singleton.1 hmem
          exact ⟨Nat.add_comm 1 _, rfl⟩
      · rcases hone with hnone | ⟨material, answer, -, hlist⟩
        · rw [hnone]
          exact Nat.zero_le 1
        · rw [hlist]
          exact Nat.le_refl 1

/-! ## A session -/

/-- What the step that runs the load makes of it: an entry and a fault are kept, and a load that was
aborted is kept as a fault, too. -/
def Step.Keeps (config : Config) (step : Step) : Outcome LoadError Entry → Prop
  | .ok entry => step.after.state = .loaded entry
  | .error cause => step.after.state = .failed cause ∧
      step.outcome = .error (.loadFailed config.entryAlias cause)
  | .aborted => step.after.state = .failed .aborted ∧ step.outcome = .aborted

/-- A query fails with the failure of the load that is kept, or because the key of the entry does
not decode with the password of the query. -/
def Step.FailsFor (config : Config) (step : Step) (query : Query) (error : Error) : Prop :=
  (∃ source, step.after.state = .failed source ∧
    error = .loadFailed config.entryAlias source ∧ error.kind = source.kind) ∨
  ∃ entry password cause, step.after.state = .loaded entry ∧
    query = .getKey entry.name password ∧
    Key.PrivateKey.ofFile entry.material password config.options = .error cause ∧
    error = .key cause

/-- What holds of all steps of a session on a store that nothing was asked of yet. -/
structure LoadOnce (config : Config) (protection : Protection) (steps : List Step) : Prop where
  -- the load
  one_load : steps.countP Step.loads ≤ 1
  idle : ∀ step ∈ steps, step.loads = false →
    step.events = [] ∧ step.after.state = step.before.state
  load_kept : ∀ step ∈ steps, step.loads = true →
    ∃ load, (loadEntry config protection).Ends step.events load ∧ step.Keeps config load
  -- the callback
  attempts_range : 1 ≤ config.attempts ∧ config.attempts ≤ 3
  few_prompts : promptCount (trace steps) ≤ config.attempts
  prompts : Disciplined config protection (exchanges config.keyPath none (trace steps))
  -- after the load
  settled : ∀ first step rest, steps = first ++ step :: rest → step.after.state ≠ .unloaded →
    ∀ later ∈ rest, later.after = step.after ∧ later.events = []
  from_load : ∀ step ∈ steps, step.after.state ≠ .unloaded →
    ∃ loading ∈ steps, loading.loads = true ∧ loading.after.state = step.after.state
  -- failures
  failing : ∀ step ∈ steps, ∀ query error, step.operation = .query query →
    step.outcome = .error error → step.FailsFor config query error
  failed : ∀ first step rest source, steps = first ++ step :: rest →
    step.after.state = .failed source → ∀ later ∈ rest, ∀ query, later.operation = .query query →
      later.outcome = .error (.loadFailed config.entryAlias source)

/-- Only decoding the key again can fail on an entry. -/
theorem Query.answer_eq_error {options : Key.Options} {entry : Entry} {query : Query}
    {error : Error} (h : query.answer options entry = .error error) :
    ∃ password cause, query = .getKey entry.name password ∧
      Key.PrivateKey.ofFile entry.material password options = .error cause ∧
      error = .key cause := by
  cases query with
  | getKey name password =>
      rw [Query.answer] at h
      by_cases hname : entry.name = name
      · subst hname
        rw [if_pos rfl] at h
        obtain ⟨cause, hd, rfl⟩ :=
          Outcome.mapError_eq_error_iff.1 (Outcome.map_eq_error_iff.1 h)
        exact ⟨password, cause, rfl, hd, rfl⟩
      · rw [if_neg hname] at h
        cases h
  | _ => cases h

theorem Performed.eq_of_failed {query : Query} {outcome : Outcome Error Response}
    {source : LoadError} (h : Performed store (.query query) events outcome after)
    (hs : store.state = .failed source) : outcome = .error (store.failure source) := by
  cases h with
  | answered _ hloaded =>
      rw [hs] at hloaded
      cases hloaded
  | failed _ hfailed =>
      rw [hs] at hfailed
      cases hfailed
      rfl
  | loads _ hunloaded hload =>
      rw [hs] at hunloaded
      cases hunloaded

/-- Why a query fails. -/
theorem Performed.fails_for
    (h : Performed step.before step.operation step.events step.outcome step.after)
    {query : Query} (hq : step.operation = .query query) {error : Error}
    (ho : step.outcome = .error error) : step.FailsFor step.before.config query error := by
  obtain ⟨before, operation, events, outcome, after⟩ := step
  change Performed before operation events outcome after at h
  cases hq
  cases h with
  | answered _ hs =>
      obtain ⟨password, cause, hquery, hd, he⟩ := Query.answer_eq_error ho
      exact Or.inr ⟨_, password, cause, hs, hquery, hd, he⟩
  | failed _ hs =>
      cases ho
      exact Or.inl ⟨_, hs, rfl, rfl⟩
  | @loads _ _ load hs hload =>
      cases load with
      | ok entry =>
          obtain ⟨password, cause, hquery, hd, he⟩ := Query.answer_eq_error ho
          exact Or.inr ⟨entry, password, cause, rfl, hquery, hd, he⟩
      | error cause =>
          cases ho
          exact Or.inl ⟨cause, rfl, rfl, rfl⟩
      | aborted => cases ho

/-- The step that runs the load keeps what it ends in. -/
theorem Step.keeps_of_loads
    (h : Performed step.before step.operation step.events step.outcome step.after)
    (hloads : step.loads = true) :
    ∃ load, (loadEntry step.before.config step.before.protection).Ends step.events load ∧
      step.Keeps step.before.config load := by
  rcases Step.idle_or_loads h with ⟨hidle, -, -⟩ | ⟨-, query, load, -, hload, ho, hafter⟩
  · rw [hidle] at hloads
    cases hloads
  · refine ⟨load, hload, ?_⟩
    cases load with
    | ok entry =>
        unfold Step.Keeps
        rw [hafter]
        rfl
    | error cause =>
        unfold Step.Keeps
        rw [hafter, ho]
        exact ⟨rfl, rfl⟩
    | aborted =>
        unfold Step.Keeps
        rw [hafter, ho]
        exact ⟨rfl, rfl⟩

/-- What a store holds comes from a step that runs the load. -/
theorem Follows.from_load (h : Follows store steps) (hs : store.state = .unloaded)
    (hmem : step ∈ steps) (hstate : step.after.state ≠ .unloaded) :
    ∃ loading ∈ steps, loading.loads = true ∧ loading.after.state = step.after.state := by
  induction h with
  | nil store => cases hmem
  | @cons store head steps hb hp hrest ih =>
      subst hb
      rcases Step.idle_or_loads hp with
        ⟨-, -, hafter⟩ | ⟨hloads, query, load, -, -, -, hafter⟩
      -- the first step leaves the store unloaded
      · rw [hafter] at ih
        rcases List.mem_cons.1 hmem with rfl | hmem
        · rw [hafter] at hstate
          exact absurd hs hstate
        · obtain ⟨loading, hin, hfound⟩ := ih hs hmem
          exact ⟨loading, List.mem_cons_of_mem _ hin, hfound⟩
      -- or it runs the load, and the steps after it keep its outcome
      · refine ⟨head, List.mem_cons_self, hloads, ?_⟩
        rcases List.mem_cons.1 hmem with rfl | hmem
        · rfl
        · have hkept : head.after.state ≠ .unloaded := by
            rw [hafter]
            exact head.before.settle_state_ne load
          rw [(hrest.kept hkept hmem).2.2]

/-- After a failed load every query fails with its failure. -/
theorem Follows.fails_after {first rest : List Step} {source : LoadError} {later : Step}
    {query : Query} (h : Follows store (first ++ step :: rest))
    (hstate : step.after.state = .failed source) (hmem : later ∈ rest)
    (hq : later.operation = .query query) :
    later.outcome = .error (.loadFailed store.config.entryAlias source) := by
  have hasked : step.after.state ≠ .unloaded := by
    rw [hstate]
    exact State.noConfusion
  obtain ⟨hbefore, -, -⟩ := h.rest.kept hasked hmem
  obtain ⟨hp, hconfig, -⟩ :=
    h.performed (List.mem_append_right first (List.mem_cons_of_mem step hmem))
  rw [← hbefore] at hstate
  rw [hq] at hp
  rw [hp.eq_of_failed hstate, KeyStore.failure, hconfig]

/-- Every session on a store that nothing was asked of yet loads at most once, asks for passwords in
a disciplined way, and keeps what the load ends in. -/
theorem load_once (config : Config) (protection : Protection) (env : Environment)
    (operations : List Operation) :
    LoadOnce config protection (session env (.fresh config protection) [] operations) := by
  have hrow := session_follows env (.fresh config protection) [] operations
  generalize session env (.fresh config protection) [] operations = steps at hrow
  have hprompts : Disciplined config protection (exchanges config.keyPath none (trace steps)) := by
    rcases hrow.load_cases with ⟨hnil, -⟩ | ⟨load, hload, -⟩
    · rw [hnil]
      exact disciplined_nil config protection
    · exact disciplined_of_ends hload
  refine {
    one_load := hrow.countP_loads_le
    idle := ?_
    load_kept := ?_
    attempts_range := ⟨config.attempts_pos, config.attempts_le⟩
    few_prompts := ?_
    prompts := hprompts
    settled := ?_
    from_load := ?_
    failing := ?_
    failed := ?_ }
  · intro step hmem hidle
    obtain ⟨hp, -⟩ := hrow.performed hmem
    rcases Step.idle_or_loads hp with ⟨-, hevents, hafter⟩ | ⟨hloads, -⟩
    · rw [hafter]
      exact ⟨hevents, rfl⟩
    · rw [hidle] at hloads
      cases hloads
  · intro step hmem hloads
    obtain ⟨hp, hconfig, hprotection⟩ := hrow.performed hmem
    have hkeeps := Step.keeps_of_loads hp hloads
    rw [hconfig, hprotection] at hkeeps
    exact hkeeps
  · rw [← length_exchanges config.keyPath none]
    exact hprompts.few
  · intro first step rest hsplit hstate later hmem
    subst hsplit
    obtain ⟨-, hevents, hafter⟩ := hrow.rest.kept hstate hmem
    exact ⟨hafter, hevents⟩
  · intro step hmem hstate
    exact hrow.from_load rfl hmem hstate
  · intro step hmem query error hq ho
    obtain ⟨hp, hconfig, -⟩ := hrow.performed hmem
    have hfails := hp.fails_for hq ho
    rw [hconfig] at hfails
    exact hfails
  · intro first step rest source hsplit hstate later hmem query hq
    subst hsplit
    exact hrow.fails_after hstate hmem hq

end Credential.Store
