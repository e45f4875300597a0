import Credential.Bytes

/-!
# Formats of key files

A key file is PEM text if five dashes stand side by side anywhere in it, and DER
otherwise.
-/

namespace Credential.Key

/-- The outer encoding of a key file. -/
inductive Format where
  | pem
  | der
  deriving DecidableEq, Repr

namespace Format

/-- The octets of five dashes. -/
def marker : Bytes := [45, 45, 45, 45, 45]

/-- The format of a key file. -/
def detect (bytes : Bytes) : Format :=
  if Bytes.contains marker bytes then .pem else .der

/-- The name of a format in texts. -/
def title : Format → String
  | .pem => "PEM"
  | .der => "DER"

/-- The name of a format in JSON. -/
def name : Format → String
  | .pem => "pem"
  | .der => "der"

/-- All formats. -/
def all : List Format := [.pem, .der]

end Format

end Credential.Key
