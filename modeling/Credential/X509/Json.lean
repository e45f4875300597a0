import Credential.Json.Value
import Credential.X509.Certificate

/-!
# Certificate summaries in JSON

`Summary.toJson` writes every field; the dates are texts for other programs.
-/

namespace Credential.X509.Summary

open Json (Value)

/-- The summary as a JSON object. -/
def toJson (s : Summary) : Value :=
  .record [("subject", .text s.subject), ("issuer", .text s.issuer),
    ("serial_number", .text s.serialNumber), ("not_before", .text s.notBefore.interchange),
    ("not_after", .text s.notAfter.interchange),
    ("public_key_algorithm", .text s.publicKeyAlgorithm),
    ("self_signed", .boolean s.selfSigned), ("ca", .boolean s.authority)]

end Credential.X509.Summary
