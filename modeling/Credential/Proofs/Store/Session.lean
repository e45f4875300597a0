import Credential.Proofs.Store.Environment

/-!
# Operations one after the other

A `session` performs operations on a store in an environment and keeps a `Step` for each. Everything
that one operation can do is `Performed`: a change is refused, a query is answered from what the
store holds, and only a query of an unloaded store runs the load (`performed_of_ends`). The steps of
a session are such operations in a row (`session_follows`).

From one step the rest follows by induction over the row: the configuration stays
(`Follows.config_eq`), a store that holds an entry or a failure stays as it is and leaves its host
alone (`Follows.kept`), and so all events are those of one load (`Follows.load_cases`), which at
most one step runs (`Follows.countP_loads_le`).
-/

namespace Credential.Store

/-- A store that nothing was asked of yet. -/
def KeyStore.fresh (config : Config) (protection : Protection) : KeyStore :=
  { config, protection }

/-- An operation of a session: the store before it, what it asked of the host, its outcome, and the
store after it. -/
structure Step where
  before : KeyStore
  operation : Operation
  events : List Event
  outcome : Outcome Error Response
  after : KeyStore

/-- Whether a step runs the load. -/
def Step.loads (step : Step) : Bool :=
  match step.before.state, step.operation with
  | .unloaded, .query _ => true
  | _, _ => false

theorem Step.loads_eq_true_iff (step : Step) :
    step.loads = true ↔
      step.before.state = .unloaded ∧ ∃ query, step.operation = .query query := by
  unfold Step.loads
  cases step.before.state <;> cases step.operation <;> simp

/-- Performs operations one after the other, the first of them after the events of `history`. -/
def session (env : Environment) : KeyStore → (history : List Event) → List Operation → List Step
  | _, _, [] => []
  | store, history, operation :: operations =>
    let run := env.run (store.perform operation) history
    ⟨store, operation, run.2.drop history.length, run.1.1, run.1.2⟩ ::
      session env run.1.2 run.2 operations

/-- A session performs all of the operations, in their order. -/
theorem session_operations (env : Environment) (store : KeyStore) (history : List Event)
    (operations : List Operation) :
    (session env store history operations).map Step.operation = operations := by
  induction operations generalizing store history with
  | nil => rfl
  | cons operation operations ih =>
      rw [session, List.map_cons, ih]

/-- All events of a session. -/
def trace (steps : List Step) : List Event := steps.flatMap Step.events

/-! ## One operation -/

/-- What an operation can do: the events that it adds, its outcome and the store after it. -/
inductive Performed (store : KeyStore) :
    Operation → List Event → Outcome Error Response → KeyStore → Prop
  | refused (change : Change) :
      Performed store (.change change) [] (.error (.readOnly change.name)) store
  | answered (query : Query) {entry : Entry} : store.state = .loaded entry →
      Performed store (.query query) [] (query.answer store.config.options entry) store
  | failed (query : Query) {cause : LoadError} : store.state = .failed cause →
      Performed store (.query query) [] (.error (store.failure cause)) store
  | loads (query : Query) {events : List Event} {load : Outcome LoadError Entry} :
      store.state = .unloaded → (loadEntry store.config store.protection).Ends events load →
      Performed store (.query query) events
        ((store.settle load).1.bind (query.answer store.config.options)) (store.settle load).2

variable {store after : KeyStore} {operation : Operation} {events : List Event}
  {outcome : Outcome Error Response} {step : Step} {steps : List Step}

@[simp] theorem KeyStore.settle_config (store : KeyStore) (load : Outcome LoadError Entry) :
    (store.settle load).2.config = store.config := by
  cases load <;> rfl

@[simp] theorem KeyStore.settle_protection (store : KeyStore) (load : Outcome LoadError Entry) :
    (store.settle load).2.protection = store.protection := by
  cases load <;> rfl

theorem KeyStore.settle_state_ne (store : KeyStore) (load : Outcome LoadError Entry) :
    (store.settle load).2.state ≠ .unloaded := by
  cases load <;> simp [KeyStore.settle]

/-- The entry, and what it takes to have it. -/
theorem entry_ends {result : Outcome Error Entry × KeyStore}
    (h : store.entry.Ends events result) :
    (∃ entry, store.state = .loaded entry ∧ events = [] ∧ result = (.ok entry, store)) ∨
      (∃ cause, store.state = .failed cause ∧ events = [] ∧
        result = (.error (store.failure cause), store)) ∨
      store.state = .unloaded ∧ ∃ load, result = store.settle load ∧
        (loadEntry store.config store.protection).Ends events load := by
  unfold KeyStore.entry at h
  cases hs : store.state with
  | loaded entry =>
      rw [hs] at h
      obtain ⟨rfl, rfl⟩ := Action.ends_done_iff.1 h
      exact Or.inl ⟨entry, rfl, rfl, rfl⟩
  | failed cause =>
      rw [hs] at h
      obtain ⟨rfl, rfl⟩ := Action.ends_done_iff.1 h
      exact Or.inr (Or.inl ⟨cause, rfl, rfl, rfl⟩)
  | unloaded =>
      rw [hs] at h
      obtain ⟨first, second, load, rfl, hload, hdone⟩ := Action.ends_bind_iff.1 h
      obtain ⟨rfl, rfl⟩ := Action.ends_done_iff.1 hdone
      rw [List.append_nil]
      exact Or.inr (Or.inr ⟨rfl, load, rfl, hload⟩)

/-- Every run of an operation is what an operation can do. -/
theorem performed_of_ends (h : (store.perform operation).Ends events (outcome, after)) :
    Performed store operation events outcome after := by
  cases operation with
  | change change =>
      obtain ⟨rfl, hresult⟩ := Action.ends_done_iff.1 h
      cases hresult
      exact .refused change
  | query query =>
      obtain ⟨first, second, ⟨found, held⟩, rfl, hentry, hdone⟩ := Action.ends_bind_iff.1 h
      obtain ⟨rfl, hresult⟩ := Action.ends_done_iff.1 hdone
      cases hresult
      rw [List.append_nil]
      rcases entry_ends hentry with
        ⟨entry, hs, rfl, heq⟩ | ⟨cause, hs, rfl, heq⟩ | ⟨hs, load, heq, hload⟩
      · cases heq
        exact .answered query hs
      · cases heq
        exact .failed query hs
      · have hfound : found = (store.settle load).1 := congrArg Prod.fst heq
        have hheld : after = (store.settle load).2 := congrArg Prod.snd heq
        rw [hfound, hheld, KeyStore.settle_config]
        exact .loads query hs hload

namespace Performed

theorem config_eq (h : Performed store operation events outcome after) :
    after.config = store.config ∧ after.protection = store.protection := by
  cases h with
  | refused change => exact ⟨rfl, rfl⟩
  | answered query hs => exact ⟨rfl, rfl⟩
  | failed query hs => exact ⟨rfl, rfl⟩
  | loads query hs hload => exact ⟨store.settle_config _, store.settle_protection _⟩

/-- A store that was asked before stays as it is and asks nothing of its host. -/
theorem kept (h : Performed store operation events outcome after) (hs : store.state ≠ .unloaded) :
    events = [] ∧ after = store := by
  cases h with
  | refused change => exact ⟨rfl, rfl⟩
  | answered query hloaded => exact ⟨rfl, rfl⟩
  | failed query hfailed => exact ⟨rfl, rfl⟩
  | loads query hunloaded hload => exact absurd hunloaded hs

/-- A query of an unloaded store runs the load. -/
theorem of_unloaded {query : Query} (h : Performed store (.query query) events outcome after)
    (hs : store.state = .unloaded) :
    ∃ load, (loadEntry store.config store.protection).Ends events load ∧
      outcome = (store.settle load).1.bind (query.answer store.config.options) ∧
      after = (store.settle load).2 := by
  cases h with
  | answered _ hloaded =>
      rw [hs] at hloaded
      cases hloaded
  | failed _ hfailed =>
      rw [hs] at hfailed
      cases hfailed
  | loads _ _ hload => exact ⟨_, hload, rfl, rfl⟩

end Performed

/-- A step that does not run the load leaves the store and the host alone; the other ones are
queries, and keep what the load ends in. -/
theorem Step.idle_or_loads
    (h : Performed step.before step.operation step.events step.outcome step.after) :
    step.loads = false ∧ step.events = [] ∧ step.after = step.before ∨
      step.loads = true ∧ ∃ query load, step.operation = .query query ∧
        (loadEntry step.before.config step.before.protection).Ends step.events load ∧
        step.outcome =
          (step.before.settle load).1.bind (query.answer step.before.config.options) ∧
        step.after = (step.before.settle load).2 := by
  obtain ⟨before, operation, events, outcome, after⟩ := step
  change Performed before operation events outcome after at h
  cases h with
  | refused change => exact Or.inl ⟨by simp [Step.loads], rfl, rfl⟩
  | answered query hs => exact Or.inl ⟨by simp [Step.loads, hs], rfl, rfl⟩
  | failed query hs => exact Or.inl ⟨by simp [Step.loads, hs], rfl, rfl⟩
  | loads query hs hload =>
      exact Or.inr ⟨by simp [Step.loads, hs], query, _, rfl, hload, rfl, rfl⟩

/-! ## Rows of operations -/

/-- Whether steps are operations in a row, the first of them on `store`. -/
inductive Follows : KeyStore → List Step → Prop
  | nil (store : KeyStore) : Follows store []
  | cons {store : KeyStore} {step : Step} {steps : List Step} : step.before = store →
      Performed store step.operation step.events step.outcome step.after →
      Follows step.after steps → Follows store (step :: steps)

theorem session_follows (env : Environment) (store : KeyStore) (history : List Event)
    (operations : List Operation) : Follows store (session env store history operations) := by
  induction operations generalizing store history with
  | nil => exact .nil store
  | cons operation operations ih =>
      obtain ⟨events, hrun, hends, -⟩ := env.run_ends (store.perform operation) history
      refine .cons rfl ?_ (ih _ _)
      have hevents :
          (env.run (store.perform operation) history).2.drop history.length = events := by
        rw [hrun, List.drop_left]
      have hperformed := performed_of_ends hends
      rw [← hevents] at hperformed
      exact hperformed

namespace Follows

/-- Each step is an operation on the store before it, with the configuration of the first one. -/
theorem performed (h : Follows store steps) (hmem : step ∈ steps) :
    Performed step.before step.operation step.events step.outcome step.after ∧
      step.before.config = store.config ∧ step.before.protection = store.protection := by
  induction h with
  | nil store => cases hmem
  | cons hb hp hrest ih =>
      rcases List.mem_cons.1 hmem with rfl | hmem
      · subst hb
        exact ⟨hp, rfl, rfl⟩
      · obtain ⟨hstep, hconfig, hprotection⟩ := ih hmem
        obtain ⟨hconfig', hprotection'⟩ := hp.config_eq
        exact ⟨hstep, hconfig.trans hconfig', hprotection.trans hprotection'⟩

/-- The steps after a step are operations in a row too. -/
theorem rest {first : List Step} (h : Follows store (first ++ step :: steps)) :
    Follows step.after steps := by
  induction first generalizing store with
  | nil =>
      cases h with
      | cons hb hp hrest => exact hrest
  | cons head first ih =>
      cases h with
      | cons hb hp hrest => exact ih hrest

/-- Once a store was asked, no operation changes it or asks anything of its host. -/
theorem kept (h : Follows store steps) (hs : store.state ≠ .unloaded) (hmem : step ∈ steps) :
    step.before = store ∧ step.events = [] ∧ step.after = store := by
  induction h with
  | nil store => cases hmem
  | @cons store head steps hb hp hrest ih =>
      obtain ⟨hevents, hafter⟩ := hp.kept hs
      rcases List.mem_cons.1 hmem with rfl | hmem
      · exact ⟨hb, hevents, hafter⟩
      · rw [hafter] at ih
        exact ih hs hmem

theorem trace_of_kept (h : Follows store steps) (hs : store.state ≠ .unloaded) :
    trace steps = [] := by
  rw [trace, List.flatMap_eq_nil_iff]
  intro step hmem
  exact (h.kept hs hmem).2.1

/-- Either no step of a row changes the store or asks anything of the host, or all events of the row
are those of one load and every step leaves the store as it was before or as it is after that
load. -/
theorem load_cases (h : Follows store steps) :
    (trace steps = [] ∧ ∀ step ∈ steps, step.after = store) ∨
      ∃ load, (loadEntry store.config store.protection).Ends (trace steps) load ∧
        ∀ step ∈ steps, step.after = store ∨ step.after = (store.settle load).2 := by
  induction h with
  | nil store =>
      refine Or.inl ⟨rfl, ?_⟩
      intro step hmem
      cases hmem
  | @cons store head steps hb hp hrest ih =>
      have htrace : trace (head :: steps) = head.events ++ trace steps := List.flatMap_cons
      subst hb
      rw [htrace]
      rcases Step.idle_or_loads hp with
        ⟨-, hevents, hafter⟩ | ⟨-, query, load, -, hload, -, hafter⟩
      · -- the first step changes nothing, so the cases are those of the others
        rw [hafter] at ih
        rw [hevents, List.nil_append]
        rcases ih with ⟨hnil, hsame⟩ | ⟨load, hload, hall⟩
        · refine Or.inl ⟨hnil, ?_⟩
          intro step hmem
          rcases List.mem_cons.1 hmem with rfl | hmem
          · exact hafter
          · exact hsame step hmem
        · refine Or.inr ⟨load, hload, ?_⟩
          intro step hmem
          rcases List.mem_cons.1 hmem with rfl | hmem
          · exact Or.inl hafter
          · exact hall step hmem
      · -- nothing happens after the load
        have hkept : head.after.state ≠ .unloaded := by
          rw [hafter]
          exact head.before.settle_state_ne load
        rw [hrest.trace_of_kept hkept, List.append_nil]
        refine Or.inr ⟨load, hload, ?_⟩
        intro step hmem
        rcases List.mem_cons.1 hmem with rfl | hmem
        · exact Or.inr hafter
        · exact Or.inr ((hrest.kept hkept hmem).2.2.trans hafter)

/-- At most one step runs the load. -/
theorem countP_loads_le (h : Follows store steps) : steps.countP Step.loads ≤ 1 := by
  induction h with
  | nil store => exact Nat.zero_le 1
  | @cons store step steps hb hp hrest ih =>
      subst hb
      rw [List.countP_cons]
      rcases Step.idle_or_loads hp with ⟨hloads, -, -⟩ | ⟨hloads, query, load, -, -, -, hafter⟩
      · rw [hloads]
        exact ih
      · -- the steps after the load find a store that is not unloaded
        have hnone : steps.countP Step.loads = 0 := by
          rw [List.countP_eq_zero]
          intro later hmem
          have hkept : step.after.state ≠ .unloaded := by
            rw [hafter]
            exact step.before.settle_state_ne load
          have hbefore := (hrest.kept hkept hmem).1
          rw [← hbefore] at hkept
          rw [Step.loads_eq_true_iff]
          exact fun hunloaded => hkept hunloaded.1
        rw [hnone, hloads]
        exact Nat.le_refl 1

end Follows

end Credential.Store
