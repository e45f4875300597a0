import Credential.Calendar
import Credential.Host.File
import Credential.Outcome

/-!
# Actions on the host

What a store asks of its host is data: an action is a result, or a request with a
continuation for every answer. So a statement over all hosts is one over all answers, and
an action runs in any monad that can answer: `Action.runIn`.
-/

namespace Credential.Store

open Calendar (Timestamp)
open Host (FileError Permissions)

/-- What the one who is asked for a password is told. Attempts are counted from one. -/
structure Prompt where
  entryAlias : String
  attempt : Nat
  maxAttempts : Nat
  encryption : Option String
  deriving DecidableEq, Repr

/-- The answer to a prompt: a password, no password, or that asking itself broke down. -/
inductive Answer where
  | password (octets : Bytes)
  | cancelled
  | abandoned
  deriving DecidableEq, Repr

/-- A computation that asks its host for files, permissions, passwords and the time. -/
inductive Action (α : Type) where
  | done (result : α)
  | readFile (path : String) (next : Except FileError Bytes → Action α)
  | permissions (path : String) (next : Permissions → Action α)
  | askPassword (prompt : Prompt) (next : Answer → Action α)
  | now (next : Timestamp → Action α)

namespace Action

variable {α β : Type}

/-- Goes on with the result. -/
def bind (f : α → Action β) : Action α → Action β
  | .done result => f result
  | .readFile path next => .readFile path fun answer => bind f (next answer)
  | .permissions path next => .permissions path fun answer => bind f (next answer)
  | .askPassword prompt next => .askPassword prompt fun answer => bind f (next answer)
  | .now next => .now fun answer => bind f (next answer)

instance : Monad Action where
  pure := .done
  bind action f := bind f action

end Action

/-- How a host answers in a monad. -/
structure Handler (m : Type → Type) where
  content : String → m (Except FileError Bytes)
  permissions : String → m Permissions
  askPassword : Prompt → m Answer
  now : m Timestamp

/-- Runs an action on a host, whose answers `handler` gives. -/
def Action.runIn {m : Type → Type} [Monad m] {α : Type} (handler : Handler m) : Action α → m α
  | .done result => pure result
  | .readFile path next => do runIn handler (next (← handler.content path))
  | .permissions path next => do runIn handler (next (← handler.permissions path))
  | .askPassword prompt next => do runIn handler (next (← handler.askPassword prompt))
  | .now next => do runIn handler (next (← handler.now))

/-! ## Actions with an outcome -/

/-- An action that may fail or abort. -/
def Attempt (ε α : Type) := Action (Outcome ε α)

namespace Attempt

variable {ε α β : Type}

/-- The attempt with a known outcome. -/
def ofOutcome (outcome : Outcome ε α) : Attempt ε α := Action.done outcome

/-- The attempt that fails. -/
def fail (cause : ε) : Attempt ε α := ofOutcome (.error cause)

/-- Goes on with the value, if there is one. -/
def bind (attempt : Attempt ε α) (f : α → Attempt ε β) : Attempt ε β :=
  Action.bind (fun outcome => match outcome with
    | .ok a => f a
    | .error cause => fail cause
    | .aborted => ofOutcome .aborted) attempt

instance : Monad (Attempt ε) where
  pure a := ofOutcome (.ok a)
  bind := bind

/-- The answer to the request to read a file. -/
def readFile (path : String) : Attempt ε (Except FileError Bytes) :=
  Action.readFile path fun answer => .done (.ok answer)

/-- The answer to the request for the permissions of a file. -/
def permissions (path : String) : Attempt ε Permissions :=
  Action.permissions path fun answer => .done (.ok answer)

/-- The answer to a prompt. -/
def askPassword (prompt : Prompt) : Attempt ε Answer :=
  Action.askPassword prompt fun answer => .done (.ok answer)

/-- The present moment. -/
def now : Attempt ε Timestamp :=
  Action.now fun answer => .done (.ok answer)

end Attempt

end Credential.Store
