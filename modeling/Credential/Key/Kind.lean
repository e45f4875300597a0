/-!
# Kinds of key failures

What a caller does about a key that does not load: ask for another password, tell that the
format is not supported, or that the file is corrupt.
-/

namespace Credential.Key

/-- A class of failures. -/
inductive Kind where
  | malformedKey
  | unsupportedAlgorithm
  | badPassword
  | noPasswordProvided
  | keyTooLarge
  deriving DecidableEq, Repr

namespace Kind

/-- Whether another password may succeed. -/
def isRetryable : Kind → Bool
  | .badPassword => true
  | _ => false

/-- The name of a kind in messages. -/
def name : Kind → String
  | .malformedKey => "malformed key"
  | .unsupportedAlgorithm => "unsupported algorithm"
  | .badPassword => "bad password"
  | .noPasswordProvided => "no password provided"
  | .keyTooLarge => "key too large"

end Kind

end Credential.Key
