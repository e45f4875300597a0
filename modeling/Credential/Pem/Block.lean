import Credential.Text.Utf8
import Credential.Pem.Error
import Credential.Pem.Label
import Credential.Pem.Header

/-!
# PEM blocks

A block is a label, header properties and a base64 payload. `Block.print?` writes it as
text: the boundary lines, the headers followed by an empty line, and the payload in lines
of 64 octets. A payload outside ASCII may be cut inside a character, and then has no
text.
-/

namespace Credential.Pem

/-- One block of a PEM text. -/
structure Block where
  label : Label
  headers : Headers
  payload : String
  deriving DecidableEq, Repr

namespace Block

/-- The block without headers that carries a byte string. -/
def ofBytes (label : Label) (data : Bytes) : Block :=
  ⟨label, [], Text.Base64.encode data⟩

/-- The byte string that the payload writes. -/
def decode (block : Block) : Except Error Bytes :=
  (Text.Base64.decodeOctets (Text.Utf8.encode block.payload)).mapError .base64

/-- The number of octets on a line of payload. -/
def lineWidth : Nat := 64

/-- The payload in lines. -/
def payloadLines? (payload : String) : Option (List String) :=
  (Bytes.blocks lineWidth (Text.Utf8.encode payload)).mapM Text.Utf8.decode?

/-- The header lines, and the empty line that ends them. -/
def headerText (headers : Headers) : String :=
  if headers.isEmpty then ""
  else String.join (headers.map fun h => h.name ++ ": " ++ h.value ++ "\n") ++ "\n"

/-- The text of a block, without a line feed at its end. -/
def print? (block : Block) : Option String :=
  (payloadLines? block.payload).map fun lines =>
    "-----BEGIN " ++ block.label.text ++ "-----\n" ++ headerText block.headers
      ++ String.join (lines.map (· ++ "\n")) ++ "-----END " ++ block.label.text ++ "-----"

end Block

end Credential.Pem
