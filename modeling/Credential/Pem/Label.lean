/-!
# Labels of PEM blocks

The labels that announce a private key or a certificate, and every other label as its
text. `ofText` and `text` are inverse to each other on the labels that `ofText` gives.
-/

namespace Credential.Pem

/-- What a PEM block says it holds. -/
inductive Label where
  | privateKey
  | encryptedPrivateKey
  | rsaPrivateKey
  | certificate
  | other (text : String)
  deriving DecidableEq, Repr

namespace Label

/-- The label with the given text. -/
def ofText (s : String) : Label :=
  if s = "PRIVATE KEY" then .privateKey
  else if s = "ENCRYPTED PRIVATE KEY" then .encryptedPrivateKey
  else if s = "RSA PRIVATE KEY" then .rsaPrivateKey
  else if s = "CERTIFICATE" then .certificate
  else .other s

/-- The text of a label. -/
def text : Label → String
  | .privateKey => "PRIVATE KEY"
  | .encryptedPrivateKey => "ENCRYPTED PRIVATE KEY"
  | .rsaPrivateKey => "RSA PRIVATE KEY"
  | .certificate => "CERTIFICATE"
  | .other s => s

end Label

end Credential.Pem
