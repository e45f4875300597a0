import Credential.Text.Base64

/-!
# Faults of a PEM text

One constructor a cause; `Error.message` is the wording.
-/

namespace Credential.Pem

/-- Why a text holds no PEM block, or why the payload of a block does not decode. -/
inductive Error where
  | missingBegin
  | missingEnd
  | missingData
  | invalidHeader (line : String)
  | invalidUtf8
  | base64 (cause : Text.Base64.Error)
  deriving DecidableEq, Repr

/-- The wording of a fault. -/
def Error.message : Error → String
  | .missingBegin => "missing a pre encapsulation boundary"
  | .missingEnd => "unable to find encapsulated data: missing a post encapsulation boundary"
  | .missingData => "missing PEM data"
  | .invalidHeader line => "invalid header line '" ++ line ++ "'"
  | .invalidUtf8 => "PEM input is not valid UTF-8"
  | .base64 cause => "base64 decode: " ++ cause.message

end Credential.Pem
