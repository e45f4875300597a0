/-!
# Outcomes

A computation on untrusted input ends in one of three ways: with a value, with an error
that has a cause, or aborted, when a step has no defined result (a division by zero, a
subtraction below zero, a callback that gives up). An abort carries no cause and no
handler of errors sees it.
-/

namespace Credential

/-- How a computation ends. -/
inductive Outcome (ε α : Type) where
  | ok (value : α)
  | error (cause : ε)
  | aborted
  deriving DecidableEq, Repr

namespace Outcome

variable {ε ε' α β : Type}

/-- Goes on with the value, if there is one. -/
def bind : Outcome ε α → (α → Outcome ε β) → Outcome ε β
  | .ok a, f => f a
  | .error e, _ => .error e
  | .aborted, _ => .aborted

instance : Monad (Outcome ε) where
  pure := .ok
  bind := Outcome.bind

/-- An outcome that never aborts. -/
def ofExcept : Except ε α → Outcome ε α
  | .ok a => .ok a
  | .error e => .error e

instance : MonadLift (Except ε) (Outcome ε) where
  monadLift := ofExcept

/-- The outcome with another description of its cause. -/
def mapError (f : ε → ε') : Outcome ε α → Outcome ε' α
  | .ok a => .ok a
  | .error e => .error (f e)
  | .aborted => .aborted

/-- The outcome with another value. -/
def map (f : α → β) : Outcome ε α → Outcome ε β
  | .ok a => .ok (f a)
  | .error e => .error e
  | .aborted => .aborted

end Outcome

end Credential
