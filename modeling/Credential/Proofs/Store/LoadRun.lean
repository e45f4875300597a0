import Credential.Proofs.Store.LoadAttempt

/-!
# Runs of a load

A load is a number of attempts that each ended in a wrong password, and one attempt after them whose
outcome is the outcome of the load (`loadEntry_ends`). The events of the first ones are those of a
list of refusals (`refusedEvents`), so the prompts of a load and the answers to them are known: the
prompts are numbered from one, and every answer but the last one is a wrong password.

`exchanges` lists the prompts in a sequence of events, each with its answer and with the content of
the key file that was read last before it.
-/

namespace Credential.Store

open Host (FileError Permissions)

variable {config : Config} {protection : Protection} {attempt : Nat} {events : List Event}
  {outcome : Outcome LoadError Entry}

/-! ## Prompts -/

/-- A prompt with its answer, and what was read last from the key file before it. -/
structure Exchange where
  material : Option Bytes
  prompt : Prompt
  answer : Answer

/-- Whether an event is a prompt. -/
def Event.isPrompt : Event → Bool
  | .askPassword _ _ => true
  | _ => false

/-- The number of prompts. -/
def promptCount (events : List Event) : Nat := events.countP Event.isPrompt

/-- The prompts in a sequence of events; `material` was read last from the file before it. -/
def exchanges (path : String) : (material : Option Bytes) → List Event → List Exchange
  | _, [] => []
  | material, .readFile path' answer :: events =>
    exchanges path (if path' = path then answer.toOption else material) events
  | material, .permissions _ _ :: events => exchanges path material events
  | material, .askPassword prompt answer :: events =>
    ⟨material, prompt, answer⟩ :: exchanges path material events
  | material, .now _ :: events => exchanges path material events

theorem length_exchanges (path : String) (material : Option Bytes) (events : List Event) :
    (exchanges path material events).length = promptCount events := by
  induction events generalizing material with
  | nil => rfl
  | cons event events ih =>
      cases event <;> simp [exchanges, promptCount, ih, Event.isPrompt, List.countP_cons]

/-- After the key file has been read, its content is what the prompts are about. -/
theorem exchanges_opened (path : String) (known : Option Bytes) (material : Bytes)
    (permissions : Permissions) (events : List Event) :
    exchanges path known
        (.readFile path (.ok material) :: .permissions path permissions :: events) =
      exchanges path (some material) events := by
  simp [exchanges, Except.toOption]

/-! ## Refused passwords -/

/-- Whether an answer is a password that the key file blames. -/
def Wrong (config : Config) (material : Bytes) (answer : Answer) : Prop :=
  ∃ password cause, answer = .password password ∧
    Key.PrivateKey.ofFile material (some password) config.options = .error cause ∧
    cause.kind = .badPassword

/-- An attempt that ended in a wrong password. -/
structure Refusal where
  material : Bytes
  permissions : Permissions
  password : Bytes

namespace Refusal

/-- The prompt of a refusal, with its answer. -/
def exchange (config : Config) (attempt : Nat) (refusal : Refusal) : Exchange :=
  ⟨some refusal.material, promptOf config refusal.material attempt, .password refusal.password⟩

/-- The events of a refusal. -/
def trace (config : Config) (attempt : Nat) (refusal : Refusal) : List Event :=
  [.readFile config.keyPath (.ok refusal.material),
    .permissions config.keyPath refusal.permissions,
    .askPassword (promptOf config refusal.material attempt) (.password refusal.password)]

/-- Whether the key needs a password, and another one than it was given. -/
def Holds (config : Config) (refusal : Refusal) : Prop :=
  Key.PrivateKey.ofFile refusal.material none config.options = .error .noPasswordProvided ∧
    Key.PrivateKey.ofFile refusal.material (some refusal.password) config.options =
      .error .badPassword

theorem Holds.wrong {refusal : Refusal} (h : refusal.Holds config) :
    Wrong config refusal.material (.password refusal.password) :=
  ⟨refusal.password, .badPassword, rfl, h.2, rfl⟩

theorem exchanges_trace (config : Config) (attempt : Nat) (refusal : Refusal)
    (known : Option Bytes) (rest : List Event) :
    exchanges config.keyPath known (refusal.trace config attempt ++ rest) =
      refusal.exchange config attempt ::
        exchanges config.keyPath (some refusal.material) rest := by
  show exchanges _ _ (.readFile _ _ :: .permissions _ _ :: _) = _
  rw [exchanges_opened]
  rfl

end Refusal

/-- The events of refusals one after the other, the first of which has number `attempt`. -/
def refusedEvents (config : Config) : (attempt : Nat) → List Refusal → List Event
  | _, [] => []
  | attempt, refusal :: refusals =>
    refusal.trace config attempt ++ refusedEvents config (attempt + 1) refusals

theorem decoded_eq_badPassword {material : Bytes} {password : Option Bytes}
    (h : decoded config material password = .error (.key .badPassword)) :
    Key.PrivateKey.ofFile material password config.options = .error .badPassword := by
  obtain ⟨cause, hd, hcause⟩ := Outcome.mapError_eq_error_iff.1 (Outcome.map_eq_error_iff.1 h)
  cases hcause
  exact hd

/-- The certificates blame no password. -/
theorem Completes.of_badPassword {material : Bytes} {proven : Outcome LoadError Unit}
    (h : Completes config material proven events (.error (.key .badPassword))) :
    events = [] ∧ proven = .error (.key .badPassword) := by
  cases h with
  | unproved => exact ⟨rfl, rfl⟩
  | proved hc => cases hc

/-- An attempt of an interactive store that ends in a wrong password is a refusal: only an answer
can be a wrong password. -/
theorem refusal_of_attempted
    (h : Attempted config .interactive attempt events (.error (.key .badPassword))) :
    ∃ refusal : Refusal, events = refusal.trace config attempt ∧ refusal.Holds config := by
  cases h with
  | @opened material permissions proof certificates proven _ ha hp hc =>
      obtain ⟨rfl, rfl⟩ := hc.of_badPassword
      rw [List.append_nil]
      generalize hr : (.error (.key .badPassword) : Outcome LoadError Unit) = proven at hp
      cases hp with
      | free hn =>
          -- the pass without a password blames nobody
          have hbad := decoded_eq_badPassword hr.symm
          have hd := Key.PrivateKey.decisive_ofFile material config.options
          exact absurd rfl (hd.blames_nobody _ hbad)
      | asked answer hn =>
          cases answer with
          | password octets =>
              exact ⟨⟨material, permissions, octets⟩, rfl, hn, decoded_eq_badPassword hr.symm⟩
          | cancelled => cases hr
          | abandoned => cases hr

/-! ## The whole load -/

/-- A load of an interactive store with `left` more attempts after the first one. -/
theorem loadWithin_ends {left : Nat}
    (h : (loadWithin config .interactive left attempt).Ends events outcome) :
    ∃ refusals last, events = refusedEvents config attempt refusals ++ last ∧
      (∀ refusal ∈ refusals, refusal.Holds config) ∧ refusals.length ≤ left ∧
      Attempted config .interactive (attempt + refusals.length) last outcome ∧
      (outcome = .error (.key .badPassword) → refusals.length = left) := by
  induction left generalizing attempt events with
  | zero =>
      refine ⟨[], events, rfl, by simp, Nat.le_refl 0, attempted_of_ends h, fun _ => rfl⟩
  | succ left ih =>
      obtain ⟨first, second, tried, rfl, htry, hnext⟩ := Action.ends_bind_iff.1 h
      have hone := attempted_of_ends htry
      by_cases hbad : tried = .error (.key .badPassword)
      · -- one more refusal, and the rest of the load
        subst hbad
        obtain ⟨refusal, rfl, hholds⟩ := refusal_of_attempted hone
        obtain ⟨refusals, last, rfl, hall, hle, hlast, hused⟩ := ih hnext
        refine ⟨refusal :: refusals, last, ?_, ?_, ?_, ?_, ?_⟩
        · rw [refusedEvents, List.append_assoc]
        · intro refusal' hmem
          rcases List.mem_cons.1 hmem with rfl | hmem
          · exact hholds
          · exact hall refusal' hmem
        · rw [List.length_cons]
          omega
        · rw [List.length_cons, Nat.add_comm refusals.length 1, ← Nat.add_assoc]
          exact hlast
        · intro ho
          rw [List.length_cons, hused ho]
      · -- everything else ends the load
        have hdone : second = [] ∧ outcome = tried := by
          cases tried with
          | ok entry => exact Attempt.ends_ofOutcome_iff.1 hnext
          | error cause =>
              have hr : cause.kind.isRetryable ≠ true := by
                rw [Ne, LoadError.isRetryable_iff]
                rintro rfl
                exact hbad rfl
              simp only [hr] at hnext
              exact Attempt.ends_fail_iff.1 hnext
          | aborted => exact Attempt.ends_ofOutcome_iff.1 hnext
        obtain ⟨rfl, rfl⟩ := hdone
        refine ⟨[], first, by rw [List.append_nil]; rfl, by simp, Nat.zero_le _, hone, ?_⟩
        intro ho
        exact absurd ho hbad

theorem Config.attempts_pos (config : Config) : 1 ≤ config.attempts :=
  Nat.le_max_left 1 _

theorem Config.attempts_le (config : Config) : config.attempts ≤ maxAttempts :=
  Nat.max_le.2 ⟨by decide, Nat.min_le_right _ _⟩

/-- A load: refusals, which only an interactive store has, and the attempt after them. If that one
is refused too, all attempts are used. -/
theorem loadEntry_ends (h : (loadEntry config protection).Ends events outcome) :
    ∃ refusals last, events = refusedEvents config 1 refusals ++ last ∧
      (∀ refusal ∈ refusals, refusal.Holds config) ∧
      refusals.length < attemptsOf config protection ∧
      Attempted config protection (1 + refusals.length) last outcome ∧
      (protection = .interactive → outcome = .error (.key .badPassword) →
        refusals.length + 1 = config.attempts) := by
  have hpos := config.attempts_pos
  cases protection with
  -- a fixed password has one attempt
  | password octets =>
      refine ⟨[], events, rfl, by simp, Nat.zero_lt_one, attempted_of_ends h, ?_⟩
      intro hp
      cases hp
  | interactive =>
      obtain ⟨refusals, last, he, hall, hle, hlast, hused⟩ := loadWithin_ends h
      have hattempts : attemptsOf config .interactive = config.attempts := rfl
      refine ⟨refusals, last, he, hall, by omega, hlast, ?_⟩
      intro _ ho
      have := hused ho
      omega

/-! ## The prompts of a load -/

theorem Proves.exchanges_append {material : Bytes} {proof : List Event}
    {proven : Outcome LoadError Unit}
    (h : Proves config attempt material protection proof proven)
    (known : Option Bytes) (rest : List Event) :
    exchanges config.keyPath known (proof ++ rest) = exchanges config.keyPath known rest ∨
      ∃ answer, protection = .interactive ∧ exchanges config.keyPath known (proof ++ rest) =
        ⟨known, promptOf config material attempt, answer⟩ ::
          exchanges config.keyPath known rest := by
  cases h with
  | fixed octets => exact Or.inl rfl
  | free hn => exact Or.inl rfl
  | asked answer hn => exact Or.inr ⟨answer, rfl, rfl⟩

theorem Completes.exchanges_eq {material : Bytes} {proven : Outcome LoadError Unit}
    (h : Completes config material proven events outcome) (known : Option Bytes) :
    exchanges config.keyPath known events = [] := by
  cases h with
  | unproved => rfl
  | aborted => rfl
  | proved hc => cases hc <;> rfl

/-- An attempt asks at most once, about the key file that it has read. -/
theorem Attempted.exchanges_eq (h : Attempted config protection attempt events outcome)
    (known : Option Bytes) :
    exchanges config.keyPath known events = [] ∨
      ∃ material answer, protection = .interactive ∧ exchanges config.keyPath known events =
        [⟨some material, promptOf config material attempt, answer⟩] := by
  cases h with
  | unread cause => exact Or.inl rfl
  | exposed material mode hr => exact Or.inl rfl
  | @opened material permissions proof certificates _ _ ha hp hc =>
      rw [exchanges_opened]
      have hnone := hc.exchanges_eq (some material)
      rcases hp.exchanges_append (some material) certificates with he | ⟨answer, hi, he⟩
      · exact Or.inl (he.trans hnone)
      · refine Or.inr ⟨material, answer, hi, ?_⟩
        rw [he, hnone]

/-- The prompts of refusals are numbered, and those of the attempt after them follow. -/
theorem exchanges_refusedEvents (refusals : List Refusal) (last : List Event) (attempt : Nat)
    (known : Option Bytes) :
    ∃ known', exchanges config.keyPath known (refusedEvents config attempt refusals ++ last) =
      refusals.mapIdx (fun i refusal => refusal.exchange config (attempt + i)) ++
        exchanges config.keyPath known' last := by
  induction refusals generalizing attempt known with
  | nil => exact ⟨known, rfl⟩
  | cons refusal refusals ih =>
      obtain ⟨known', he⟩ := ih (attempt + 1) (some refusal.material)
      refine ⟨known', ?_⟩
      rw [refusedEvents, List.append_assoc, Refusal.exchanges_trace, he, List.mapIdx_cons]
      simp only [Nat.add_assoc, Nat.add_comm 1, Nat.add_zero, List.cons_append]

end Credential.Store
