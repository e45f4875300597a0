import Credential.Pem.Error

/-!
# Faults of a certificate chain

One constructor a cause; `Error.message` is the wording.
-/

namespace Credential.X509

/-- Why a file holds no certificate chain. Certificates are counted from zero. -/
inductive Error where
  | emptyChain
  | pem (cause : Pem.Error)
  | invalidCertificate (index : Nat)
  deriving DecidableEq, Repr

/-- The wording of a fault. -/
def Error.message : Error → String
  | .emptyChain => "certificate chain is empty"
  | .pem cause => "PEM error: " ++ cause.message
  | .invalidCertificate index => "invalid certificate " ++ toString index

end Credential.X509
