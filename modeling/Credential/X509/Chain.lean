import Credential.Pem.Parser
import Credential.X509.Certificate
import Credential.X509.Error

/-!
# Certificate chains

A chain is a certificate, the leaf, and the certificates after it, each of which is expected
to be the issuer of the one before; that is not checked here.

A file holds a chain as PEM text, of which only the blocks that are labelled as certificates
count, or as DER certificates side by side. Certificates from PEM keep their octets and
certificates from DER are kept in normal form.
-/

namespace Credential.X509

/-- A chain of certificates, leaf first. -/
structure Chain where
  leaf : Certificate
  intermediates : List Certificate
  deriving Repr

namespace Chain

/-- The chain of the given certificates. -/
def ofList : List Certificate → Except Error Chain
  | [] => .error .emptyChain
  | leaf :: intermediates => .ok ⟨leaf, intermediates⟩

/-- The certificates of a chain in order. -/
def toList (chain : Chain) : List Certificate := chain.leaf :: chain.intermediates

/-- The number of certificates. -/
def size (chain : Chain) : Nat := chain.toList.length

/-- The last certificate, if it is a self-signed authority. -/
def root? (chain : Chain) : Option Certificate :=
  chain.toList.getLast?.filter fun c => c.isSelfSigned && c.isAuthority

/-- The place of the first certificate with the encoding of `c`. -/
def position? (chain : Chain) (c : Certificate) : Option Nat :=
  chain.toList.findIdx? (·.sameEncoding c)

/-- Whether two chains have the same encodings in the same order. -/
def sameEncoding (chain other : Chain) : Bool :=
  chain.toList.map Certificate.der == other.toList.map Certificate.der

/-! ## DER -/

/-- Reads DER certificates side by side, the first of which has number `index`. -/
def readCertificates (index : Nat) (data : Bytes) : Except Error (List Certificate) :=
  if data = [] then .ok []
  else
    match _h : Element.read? data with
    | none => .error (.invalidCertificate index)
    | some (e, rest) =>
      match SignedCertificate.ofElement? e with
      | none => .error (.invalidCertificate index)
      | some c => (readCertificates (index + 1) rest).map (.normalized c :: ·)
termination_by data.length
decreasing_by exact Element.length_of_read? _h

/-- The chain of DER certificates side by side. -/
def ofDer (data : Bytes) : Except Error Chain := do
  let certificates ← readCertificates 0 data
  ofList certificates

/-! ## PEM -/

/-- The certificate in a PEM block; a fault of the certificate names it by `index`. -/
def ofBlock (index : Nat) (block : Pem.Block) : Except Error Certificate := do
  let der ← block.decode.mapError .pem
  match Certificate.ofBytes? der with
  | some c => return c
  | none => throw (.invalidCertificate index)

/-- The certificates in PEM blocks, the first of which has number `index`. -/
def ofBlocks (index : Nat) : List Pem.Block → Except Error (List Certificate)
  | [] => .ok []
  | block :: blocks => do
    let c ← ofBlock index block
    let others ← ofBlocks (index + 1) blocks
    return c :: others

/-- The chain of the certificate blocks in a text. -/
def ofText (s : String) : Except Error Chain := do
  let blocks ← (Pem.blocksOfText s).mapError .pem
  let certificates ← ofBlocks 0 (blocks.filter fun block => block.label = .certificate)
  ofList certificates

/-! ## Files -/

/-- The octets that announce a PEM block. -/
def marker : Bytes := Text.Utf8.encode "-----BEGIN"

/-- The chain in a file. A text that announces a PEM block is PEM, a blank one is empty, and
everything else is DER. -/
def ofFile (bytes : Bytes) : Except Error Chain :=
  match Text.Utf8.decode? bytes with
  | some s =>
    if Bytes.contains marker bytes then ofText s
    else if (Text.trim s.toList).isEmpty then .error .emptyChain
    else ofDer bytes
  | none => ofDer bytes

end Chain

end Credential.X509
