import Credential.Command.Run
import Credential.Proofs.Store.SingleEntry

/-!
# Consoles with states

A console may answer from a state and change it with every answer. `Session.runFrom` runs a session
on such a console, from one of its states: a sequence goes on from the state in which its first part
ends (`Session.runFrom_bind_of_ok`), unless that part has no value.

A store on such a console asks for what it asks of any host. So its load ends as a load can end, and
the files it has read are those of the console (`Action.exists_ends_of_runIn`); the entry that comes
up is one that was verified (`KeyStore.verified_of_runIn`).
-/

namespace Credential.Store

variable {σ α β : Type} {m : Type → Type} [Monad m]

/-! ## Actions on a host with states -/

/-- A sequence of two actions runs as the one and then the other. -/
theorem Action.runIn_bind [LawfulMonad m] (handler : Handler m) (f : α → Action β)
    (action : Action α) :
    (Action.bind f action).runIn handler =
      action.runIn handler >>= fun a => (f a).runIn handler := by
  induction action with
  | done result => simp only [Action.bind, Action.runIn, pure_bind]
  | readFile path next ih => simp only [Action.bind, Action.runIn, bind_assoc, ih]
  | permissions path next ih => simp only [Action.bind, Action.runIn, bind_assoc, ih]
  | askPassword prompt next ih => simp only [Action.bind, Action.runIn, bind_assoc, ih]
  | now next ih => simp only [Action.bind, Action.runIn, bind_assoc, ih]

/-- An action on a host with states ends as it can end, and the files that it has read are those of
the host, each in some state. -/
theorem Action.exists_ends_of_runIn (handler : Handler (StateM σ)) (action : Action α) (s : σ) :
    ∃ events, action.Ends events ((action.runIn handler).run s).1 ∧
      ∀ path answer, .readFile path answer ∈ events →
        ∃ t, ((handler.content path).run t).1 = answer := by
  induction action generalizing s with
  | done result => exact ⟨[], .done result, fun path answer h => by cases h⟩
  | readFile path next ih =>
      obtain ⟨events, hends, hreads⟩ :=
        ih ((handler.content path).run s).1 ((handler.content path).run s).2
      refine ⟨_, .readFile hends, fun read answer h => ?_⟩
      rcases List.mem_cons.1 h with heq | h
      · cases heq
        exact ⟨s, rfl⟩
      · exact hreads read answer h
  | permissions path next ih =>
      obtain ⟨events, hends, hreads⟩ :=
        ih ((handler.permissions path).run s).1 ((handler.permissions path).run s).2
      refine ⟨_, .permissions hends, fun read answer h => hreads read answer ?_⟩
      exact List.mem_of_ne_of_mem Event.noConfusion h
  | askPassword prompt next ih =>
      obtain ⟨events, hends, hreads⟩ :=
        ih ((handler.askPassword prompt).run s).1 ((handler.askPassword prompt).run s).2
      refine ⟨_, .askPassword hends, fun read answer h => hreads read answer ?_⟩
      exact List.mem_of_ne_of_mem Event.noConfusion h
  | now next ih =>
      obtain ⟨events, hends, hreads⟩ := ih (handler.now.run s).1 (handler.now.run s).2
      refine ⟨_, .now hends, fun read answer h => hreads read answer ?_⟩
      exact List.mem_of_ne_of_mem Event.noConfusion h

variable {config : Config} {protection : Protection} {handler : Handler (StateM σ)}
  {after : KeyStore} {entry : Entry} {s t : σ}

/-- The entry of a fresh store was verified, from files of the host, and is kept. -/
theorem KeyStore.verified_of_runIn
    (h : ((KeyStore.fresh config protection).entry.runIn handler).run s = ((.ok entry, after), t)) :
    after = { config, protection, state := .loaded entry } ∧
      ∃ events password key, Verified config protection events entry password key ∧
        ∀ path answer, .readFile path answer ∈ events →
          ∃ u, ((handler.content path).run u).1 = answer := by
  obtain ⟨events, hends, hreads⟩ :=
    Action.exists_ends_of_runIn handler (KeyStore.fresh config protection).entry s
  rw [h] at hends
  rcases entry_ends hends with ⟨found, hs, -⟩ | ⟨cause, hs, -⟩ | ⟨-, load, heq, hload⟩
  · cases hs
  · cases hs
  · cases load with
    | ok found =>
        cases heq
        obtain ⟨password, key, hverified⟩ := verified_of_ends hload
        exact ⟨rfl, events, password, key, hverified, hreads⟩
    | error cause => cases heq
    | aborted => cases heq

end Credential.Store

namespace Credential.Command

open Store (Entry KeyStore Protection)

variable {σ α β : Type} {console : Console (StateM σ)} {s t : σ}

/-- Whether the console gives the same content of a file in every state. -/
def Console.Holds (console : Console (StateM σ)) (path : String) (bytes : Bytes) : Prop :=
  ∀ s, ((console.content path).run s).1 = .ok bytes

/-! ## Sessions -/

namespace Session

/-- Runs a session from a state of its console: the outcome, and the state after it. -/
def runFrom (session : Session (StateM σ) α) (s : σ) : Outcome Error α × σ :=
  session.run.run s

variable {session session' : Session (StateM σ) α} {f : α → Session (StateM σ) β}

theorem ext_runFrom (h : ∀ s, session.runFrom s = session'.runFrom s) : session = session' :=
  funext h

@[simp] theorem runFrom_ask (answer : StateM σ α) (s : σ) :
    (ask answer).runFrom s = (.ok (answer.run s).1, (answer.run s).2) := rfl

@[simp] theorem runFrom_ofOutcome (outcome : Outcome Error α) (s : σ) :
    (ofOutcome outcome : Session (StateM σ) α).runFrom s = (outcome, s) := rfl

/-- What becomes of a sequence after the outcome of its first part. -/
def resume (f : α → Session (StateM σ) β) : Outcome Error α → Session (StateM σ) β
  | .ok a => f a
  | .error cause => ofOutcome (.error cause)
  | .aborted => ofOutcome .aborted

/-- A sequence goes on from the state in which its first part ends. -/
theorem runFrom_bind (session : Session (StateM σ) α) (f : α → Session (StateM σ) β) (s : σ) :
    (session >>= f).runFrom s =
      (resume f (session.runFrom s).1).runFrom (session.runFrom s).2 := rfl

theorem runFrom_bind_of_ok {a : α} (h : session.runFrom s = (.ok a, t)) :
    (session >>= f).runFrom s = (f a).runFrom t := by
  rw [runFrom_bind, h]
  rfl

theorem runFrom_bind_of_error {cause : Error} (h : session.runFrom s = (.error cause, t)) :
    (session >>= f).runFrom s = (.error cause, t) := by
  rw [runFrom_bind, h]
  rfl

theorem runFrom_bind_of_aborted (h : session.runFrom s = (.aborted, t)) :
    (session >>= f).runFrom s = (.aborted, t) := by
  rw [runFrom_bind, h]
  rfl

/-- Two sequences with the same first part run the same if their second parts do after it. -/
theorem runFrom_bind_congr {g : α → Session (StateM σ) β}
    (h : ∀ a t, session.runFrom s = (.ok a, t) → (f a).runFrom t = (g a).runFrom t) :
    (session >>= f).runFrom s = (session >>= g).runFrom s := by
  rw [runFrom_bind, runFrom_bind]
  rcases hrun : session.runFrom s with ⟨outcome, t⟩
  cases outcome with
  | ok a => exact h a t hrun
  | error cause => rfl
  | aborted => rfl

end Session

/-- The content of a file that a console holds. -/
theorem readFile_runFrom {path : String} {bytes : Bytes} (h : console.Holds path bytes) (s : σ) :
    (readFile console path).runFrom s = (.ok bytes, ((console.content path).run s).2) := by
  unfold readFile
  rw [Session.runFrom_bind_of_ok (Session.runFrom_ask _ s)]
  unfold Session.ofExcept
  rw [h s]
  rfl

/-- The entry of a fresh store on a console that holds its files comes from these files. -/
theorem verified_of_holds {config : Store.Config} {protection : Protection} {after : KeyStore}
    {entry : Entry} {material certificates : Bytes} (hkey : console.Holds config.keyPath material)
    (hcertificates : console.Holds config.certificatePath certificates)
    (h : ((KeyStore.fresh config protection).entry.runIn (hostOf console)).run s =
      ((.ok entry, after), t)) :
    entry.name = config.entryAlias ∧ X509.Chain.ofFile certificates = .ok entry.chain ∧
      ∃ password key, Key.PrivateKey.ofFile material password config.options = .ok key := by
  obtain ⟨-, events, password, key, hverified, hreads⟩ := KeyStore.verified_of_runIn h
  obtain ⟨refused, attempt, permissions, proof, found, hevents, -, hchain⟩ := hverified.reads
  -- what was read of a file in some state is what the console holds of it
  obtain ⟨u, hmaterial⟩ := hreads config.keyPath (.ok entry.material) (by simp [hevents])
  obtain ⟨v, hfound⟩ := hreads config.certificatePath (.ok found) (by simp [hevents])
  have hsameKey : material = entry.material := Except.ok.inj ((hkey u).symm.trans hmaterial)
  have hsameChain : certificates = found := Except.ok.inj ((hcertificates v).symm.trans hfound)
  rw [hsameKey, hsameChain]
  exact ⟨hverified.name, hchain, password, key, hverified.decodes⟩

end Credential.Command
