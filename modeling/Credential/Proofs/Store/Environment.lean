import Credential.Store.KeyStore

/-!
# Hosts of a store and what they see

An `Environment` answers the requests of actions, each answer from all that happened before. So a
statement about every environment is one about files that change, permissions that change and a
callback that answers as it likes. `Environment.run` runs an action and keeps the events.

`Action.Ends` is the same without an environment: an action can end in a result after some events,
whatever the answers in them. A run of an environment is one of these (`Environment.run_ends`), and
its answers are those of the environment (`Environment.Gives`). Statements about runs are proved by
taking a sequence of actions apart (`Action.ends_bind_iff`, `Attempt.ends_bind_iff`).
-/

namespace Credential.Store

open Calendar (Timestamp)
open Host (FileError Permissions)

variable {α β ε : Type}

/-- A request to the host, with its answer. -/
inductive Event where
  | readFile (path : String) (answer : Except FileError Bytes)
  | permissions (path : String) (answer : Permissions)
  | askPassword (prompt : Prompt) (answer : Answer)
  | now (answer : Timestamp)

/-- The answers of a host, each one from the events before it. -/
structure Environment where
  content : List Event → String → Except FileError Bytes
  permissions : List Event → String → Permissions
  askPassword : List Event → Prompt → Answer
  now : List Event → Timestamp

namespace Environment

/-- Answers a request and keeps the event. -/
def answering (answer : List Event → β) (event : β → Event) : StateM (List Event) β :=
  fun history => (answer history, history ++ [event (answer history)])

/-- The environment as a handler of requests. -/
def handler (env : Environment) : Handler (StateM (List Event)) where
  content path := answering (env.content · path) (.readFile path)
  permissions path := answering (env.permissions · path) (.permissions path)
  askPassword prompt := answering (env.askPassword · prompt) (.askPassword prompt)
  now := answering env.now .now

/-- Runs an action after some events: its result, and all events up to its end. -/
def run (env : Environment) (action : Action α) (history : List Event) : α × List Event :=
  (action.runIn env.handler).run history

/-- Whether the answer in an event is the one that the environment gives. -/
def Answers (env : Environment) (history : List Event) : Event → Prop
  | .readFile path answer => answer = env.content history path
  | .permissions path answer => answer = env.permissions history path
  | .askPassword prompt answer => answer = env.askPassword history prompt
  | .now answer => answer = env.now history

/-- Whether the answers in the events after `history` are those of the environment. -/
def Gives (env : Environment) : List Event → List Event → Prop
  | _, [] => True
  | history, event :: events => env.Answers history event ∧ env.Gives (history ++ [event]) events

end Environment

/-! ## Actions without an environment -/

/-- `action` can end in `result` after the given events. -/
inductive Action.Ends : Action α → List Event → α → Prop
  | done (result : α) : Ends (.done result) [] result
  | readFile {path next answer events result} : Ends (next answer) events result →
      Ends (.readFile path next) (.readFile path answer :: events) result
  | permissions {path next answer events result} : Ends (next answer) events result →
      Ends (.permissions path next) (.permissions path answer :: events) result
  | askPassword {prompt next answer events result} : Ends (next answer) events result →
      Ends (.askPassword prompt next) (.askPassword prompt answer :: events) result
  | now {next answer events result} : Ends (next answer) events result →
      Ends (.now next) (.now answer :: events) result

/-- A run of an environment ends the action after the events that it adds to the history, and their
answers are its own. -/
theorem Environment.run_ends (env : Environment) (action : Action α) (history : List Event) :
    ∃ events, (env.run action history).2 = history ++ events ∧
      action.Ends events (env.run action history).1 ∧ env.Gives history events := by
  induction action generalizing history with
  | done result => exact ⟨[], (List.append_nil history).symm, .done result, trivial⟩
  | readFile path next ih =>
      obtain ⟨events, hrun, hends, hgives⟩ := ih (env.content history path)
        (history ++ [.readFile path (env.content history path)])
      refine ⟨.readFile path (env.content history path) :: events, ?_, .readFile hends, rfl, hgives⟩
      rw [List.append_cons]
      exact hrun
  | permissions path next ih =>
      obtain ⟨events, hrun, hends, hgives⟩ := ih (env.permissions history path)
        (history ++ [.permissions path (env.permissions history path)])
      refine ⟨.permissions path (env.permissions history path) :: events, ?_, .permissions hends,
        rfl, hgives⟩
      rw [List.append_cons]
      exact hrun
  | askPassword prompt next ih =>
      obtain ⟨events, hrun, hends, hgives⟩ := ih (env.askPassword history prompt)
        (history ++ [.askPassword prompt (env.askPassword history prompt)])
      refine ⟨.askPassword prompt (env.askPassword history prompt) :: events, ?_,
        .askPassword hends, rfl, hgives⟩
      rw [List.append_cons]
      exact hrun
  | now next ih =>
      obtain ⟨events, hrun, hends, hgives⟩ := ih (env.now history)
        (history ++ [.now (env.now history)])
      refine ⟨.now (env.now history) :: events, ?_, .now hends, rfl, hgives⟩
      rw [List.append_cons]
      exact hrun

theorem Environment.gives_append_iff (env : Environment) (history first second : List Event) :
    env.Gives history (first ++ second) ↔
      env.Gives history first ∧ env.Gives (history ++ first) second := by
  induction first generalizing history with
  | nil => simp [Environment.Gives]
  | cons event first ih =>
      simp only [List.cons_append, Environment.Gives, ih, and_assoc, List.append_assoc,
        List.nil_append]

namespace Action

theorem ends_done_iff {result result' : α} {events : List Event} :
    (Action.done result).Ends events result' ↔ events = [] ∧ result' = result := by
  constructor
  · intro h
    cases h
    exact ⟨rfl, rfl⟩
  · rintro ⟨rfl, rfl⟩
    exact .done _

/-- A sequence of two actions ends after the events of the one and then of the other. -/
theorem ends_bind_iff {action : Action α} {f : α → Action β} {events : List Event} {result : β} :
    (Action.bind f action).Ends events result ↔ ∃ first second middle,
      events = first ++ second ∧ action.Ends first middle ∧ (f middle).Ends second result := by
  constructor
  -- the events of the first action are those up to its end
  · intro h
    induction action generalizing events with
    | done middle => exact ⟨[], events, middle, rfl, .done middle, h⟩
    | readFile path next ih =>
        cases h with
        | readFile h =>
            obtain ⟨first, second, middle, rfl, hfirst, hsecond⟩ := ih _ h
            exact ⟨_ :: first, second, middle, rfl, .readFile hfirst, hsecond⟩
    | permissions path next ih =>
        cases h with
        | permissions h =>
            obtain ⟨first, second, middle, rfl, hfirst, hsecond⟩ := ih _ h
            exact ⟨_ :: first, second, middle, rfl, .permissions hfirst, hsecond⟩
    | askPassword prompt next ih =>
        cases h with
        | askPassword h =>
            obtain ⟨first, second, middle, rfl, hfirst, hsecond⟩ := ih _ h
            exact ⟨_ :: first, second, middle, rfl, .askPassword hfirst, hsecond⟩
    | now next ih =>
        cases h with
        | now h =>
            obtain ⟨first, second, middle, rfl, hfirst, hsecond⟩ := ih _ h
            exact ⟨_ :: first, second, middle, rfl, .now hfirst, hsecond⟩
  · rintro ⟨first, second, middle, rfl, hfirst, hsecond⟩
    induction hfirst with
    | done middle => exact hsecond
    | readFile _ ih => exact .readFile (ih hsecond)
    | permissions _ ih => exact .permissions (ih hsecond)
    | askPassword _ ih => exact .askPassword (ih hsecond)
    | now _ ih => exact .now (ih hsecond)

end Action

namespace Attempt

/-- `attempt` can end in an outcome after the given events. -/
def Ends (attempt : Attempt ε α) (events : List Event) (outcome : Outcome ε α) : Prop :=
  Action.Ends attempt events outcome

theorem ends_ofOutcome_iff {outcome outcome' : Outcome ε α} {events : List Event} :
    (ofOutcome outcome).Ends events outcome' ↔ events = [] ∧ outcome' = outcome :=
  Action.ends_done_iff

theorem ends_fail_iff {cause : ε} {events : List Event} {outcome : Outcome ε α} :
    (fail cause).Ends events outcome ↔ events = [] ∧ outcome = .error cause :=
  Action.ends_done_iff

theorem ends_pure_iff {a : α} {events : List Event} {outcome : Outcome ε α} :
    (pure a : Attempt ε α).Ends events outcome ↔ events = [] ∧ outcome = .ok a :=
  Action.ends_done_iff

/-- A sequence of two attempts ends with the first one, or goes on with its value. -/
theorem ends_bind_iff {attempt : Attempt ε α} {f : α → Attempt ε β} {events : List Event}
    {outcome : Outcome ε β} :
    (attempt >>= f).Ends events outcome ↔
      (∃ first second a, events = first ++ second ∧ attempt.Ends first (.ok a) ∧
        (f a).Ends second outcome) ∨
      (∃ cause, attempt.Ends events (.error cause) ∧ outcome = .error cause) ∨
      attempt.Ends events .aborted ∧ outcome = .aborted := by
  refine Iff.trans Action.ends_bind_iff ?_
  constructor
  -- a failed or an aborted first attempt adds all the events
  · rintro ⟨first, second, middle, rfl, hfirst, hsecond⟩
    cases middle with
    | ok a => exact Or.inl ⟨first, second, a, rfl, hfirst, hsecond⟩
    | error cause =>
        obtain ⟨rfl, rfl⟩ := ends_fail_iff.1 hsecond
        rw [List.append_nil]
        exact Or.inr (Or.inl ⟨cause, hfirst, rfl⟩)
    | aborted =>
        obtain ⟨rfl, rfl⟩ := ends_ofOutcome_iff.1 hsecond
        rw [List.append_nil]
        exact Or.inr (Or.inr ⟨hfirst, rfl⟩)
  · rintro (⟨first, second, a, rfl, hfirst, hsecond⟩ | ⟨cause, hfirst, rfl⟩ | ⟨hfirst, rfl⟩)
    · exact ⟨first, second, .ok a, rfl, hfirst, hsecond⟩
    · exact ⟨events, [], .error cause, (List.append_nil events).symm, hfirst,
        ends_fail_iff.2 ⟨rfl, rfl⟩⟩
    · exact ⟨events, [], .aborted, (List.append_nil events).symm, hfirst,
        ends_ofOutcome_iff.2 ⟨rfl, rfl⟩⟩

/-- An attempt that starts with a request goes on with the answer. -/
theorem ends_readFile_bind_iff {path : String} {f : Except FileError Bytes → Attempt ε α}
    {events : List Event} {outcome : Outcome ε α} :
    (readFile path >>= f).Ends events outcome ↔
      ∃ answer rest, events = .readFile path answer :: rest ∧ (f answer).Ends rest outcome := by
  constructor
  · intro h
    cases h with
    | readFile h => exact ⟨_, _, rfl, h⟩
  · rintro ⟨answer, rest, rfl, h⟩
    exact .readFile h

theorem ends_permissions_bind_iff {path : String} {f : Permissions → Attempt ε α}
    {events : List Event} {outcome : Outcome ε α} :
    (permissions path >>= f).Ends events outcome ↔
      ∃ answer rest, events = .permissions path answer :: rest ∧ (f answer).Ends rest outcome := by
  constructor
  · intro h
    cases h with
    | permissions h => exact ⟨_, _, rfl, h⟩
  · rintro ⟨answer, rest, rfl, h⟩
    exact .permissions h

theorem ends_askPassword_bind_iff {prompt : Prompt} {f : Answer → Attempt ε α}
    {events : List Event} {outcome : Outcome ε α} :
    (askPassword prompt >>= f).Ends events outcome ↔ ∃ answer rest,
      events = .askPassword prompt answer :: rest ∧ (f answer).Ends rest outcome := by
  constructor
  · intro h
    cases h with
    | askPassword h => exact ⟨_, _, rfl, h⟩
  · rintro ⟨answer, rest, rfl, h⟩
    exact .askPassword h

theorem ends_now_bind_iff {f : Timestamp → Attempt ε α} {events : List Event}
    {outcome : Outcome ε α} :
    (now >>= f).Ends events outcome ↔
      ∃ answer rest, events = .now answer :: rest ∧ (f answer).Ends rest outcome := by
  constructor
  · intro h
    cases h with
    | now h => exact ⟨_, _, rfl, h⟩
  · rintro ⟨answer, rest, rfl, h⟩
    exact .now h

end Attempt

end Credential.Store
