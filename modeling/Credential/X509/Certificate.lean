import Credential.X509.Extension
import Credential.X509.Name
import Credential.X509.Time

/-!
# Certificates

The Certificate of RFC 5280. `SignedCertificate.ofElement?` reads one and `toElement` writes
it in normal form: attributes of a name in order, default values left out, and context
elements that are not known left out.

A `Certificate` is a decoded certificate together with an encoding of it, and certificates
are compared by that encoding. `ofBytes?` keeps the octets that were read, and `normalized`
keeps the normal form.
-/

namespace Credential.X509

open Calendar (Timestamp)

/-- The version of a certificate. -/
inductive Version where
  | v1
  | v2
  | v3
  deriving DecidableEq, Repr

namespace Version

/-- Reads the INTEGER of a version. -/
def ofElement? (e : Element) : Option Version := do
  match ← octetInteger? e with
  | 0 => return .v1
  | 1 => return .v2
  | 2 => return .v3
  | _ => none

/-- The INTEGER of a version. -/
def toElement : Version → Element
  | .v1 => ⟨0x02, [0]⟩
  | .v2 => ⟨0x02, [1]⟩
  | .v3 => ⟨0x02, [2]⟩

end Version

/-- What the issuer signs. The serial number is the content of its INTEGER. -/
structure TbsCertificate where
  version : Version
  serial : Bytes
  signature : AlgorithmIdentifier
  issuer : Name
  notBefore : Time
  notAfter : Time
  subject : Name
  keyAlgorithm : AlgorithmIdentifier
  key : BitString
  issuerId : Option BitString
  subjectId : Option BitString
  extensions : Option (List Extension)
  deriving DecidableEq, Repr

/-! ## Reading -/

/-- The element inside an explicit tag. -/
def explicitContent? (number : UInt8) (e : Element) : Option Element := do
  if e.octet ≠ explicitOctet number then none
  else match ← elements? e.content with
    | [inner] => return inner
    | _ => none

/-- Reads an optional element, which is fine if it is absent. -/
def optional? {α : Type} (read? : Element → Option α) : Option Element → Option (Option α)
  | none => some none
  | some e => (read? e).map some

/-- Reads the extensions. -/
def extensions? (e : Element) : Option (List Extension) := do
  (← e.sequence?).mapM Extension.ofElement?

/-- The largest number of content octets of a serial number. -/
def maxSerialLength : Nat := 21

/-- Reads a serial number. -/
def serial? (e : Element) : Option Bytes :=
  (integer? e).filter fun content => content.length ≤ maxSerialLength

/-- Reads the two dates of a validity. -/
def validity? (e : Element) : Option (Time × Time) := do
  match ← e.sequence? with
  | [notBefore, notAfter] => return (← Time.ofElement? notBefore, ← Time.ofElement? notAfter)
  | _ => none

/-- Reads a public key with its algorithm. -/
def publicKey? (e : Element) : Option (AlgorithmIdentifier × BitString) := do
  match ← e.sequence? with
  | [algorithm, key] =>
    return (← AlgorithmIdentifier.ofElement? algorithm,
      ← BitString.ofElement? BitString.octet key)
  | _ => none

namespace TbsCertificate

/-- Reads what stands after the version. -/
def ofFields? (version : Version) : List Element → Option TbsCertificate
  | serial :: signature :: issuer :: validity :: subject :: key :: rest => do
    let serial ← serial? serial
    let signature ← AlgorithmIdentifier.ofElement? signature
    let issuer ← Name.ofElement? issuer
    let (notBefore, notAfter) ← validity? validity
    let subject ← Name.ofElement? subject
    let (keyAlgorithm, key) ← publicKey? key
    let (issuerId, rest) := takeTagged 1 rest
    let issuerId ← optional? (BitString.ofElement? (implicitOctet 1)) issuerId
    let (subjectId, rest) := takeTagged 2 rest
    let subjectId ← optional? (BitString.ofElement? (implicitOctet 2)) subjectId
    let (extensions, rest) := takeTagged 3 rest
    let extensions ← optional? (explicitContent? 3 · >>= extensions?) extensions
    if rest = [] then
      return ⟨version, serial, signature, issuer, notBefore, notAfter, subject, keyAlgorithm, key,
        issuerId, subjectId, extensions⟩
    else none
  | _ => none

/-- Reads a TBSCertificate. -/
def ofElement? (e : Element) : Option TbsCertificate := do
  let (version, rest) := takeTagged 0 (← e.sequence?)
  let version ← optional? (explicitContent? 0 · >>= Version.ofElement?) version
  ofFields? (version.getD .v1) rest

end TbsCertificate

/-! ## Writing -/

/-- An element inside an explicit tag. -/
def explicit (number : UInt8) (e : Element) : Element :=
  ⟨explicitOctet number, e.encode⟩

namespace TbsCertificate

/-- The version, which is left out if it is the first one. -/
def versionElements (version : Version) : List Element :=
  if version = .v1 then [] else [explicit 0 version.toElement]

/-- The TBSCertificate. -/
def toElement (tbs : TbsCertificate) : Element :=
  .sequence
    (versionElements tbs.version
      ++ [⟨0x02, tbs.serial⟩, tbs.signature.toElement, tbs.issuer.toElement,
        .sequence [tbs.notBefore.toElement, tbs.notAfter.toElement], tbs.subject.toElement,
        .sequence [tbs.keyAlgorithm.toElement, tbs.key.toElement BitString.octet]]
      ++ (tbs.issuerId.map (BitString.toElement (implicitOctet 1))).toList
      ++ (tbs.subjectId.map (BitString.toElement (implicitOctet 2))).toList
      ++ (tbs.extensions.map fun es =>
          explicit 3 (.sequence (es.map Extension.toElement))).toList)

end TbsCertificate

/-- A decoded certificate. -/
structure SignedCertificate where
  tbs : TbsCertificate
  signatureAlgorithm : AlgorithmIdentifier
  signature : BitString
  deriving DecidableEq, Repr

namespace SignedCertificate

/-- Reads a Certificate. -/
def ofElement? (e : Element) : Option SignedCertificate := do
  match ← e.sequence? with
  | [tbs, algorithm, signature] =>
    return ⟨← TbsCertificate.ofElement? tbs, ← AlgorithmIdentifier.ofElement? algorithm,
      ← BitString.ofElement? BitString.octet signature⟩
  | _ => none

/-- The Certificate. -/
def toElement (c : SignedCertificate) : Element :=
  .sequence [c.tbs.toElement, c.signatureAlgorithm.toElement,
    c.signature.toElement BitString.octet]

end SignedCertificate

/-! ## Certificates with their encoding -/

/-- A certificate together with an encoding of it. -/
structure Certificate where
  signed : SignedCertificate
  der : Bytes
  deriving Repr

namespace Certificate

/-- Whether two certificates have the same encoding. -/
def sameEncoding (c d : Certificate) : Bool := c.der == d.der

/-- Reads a certificate that fills `der`, which is kept. -/
def ofBytes? (der : Bytes) : Option Certificate :=
  match Element.read? der with
  | some (e, []) => (SignedCertificate.ofElement? e).map (⟨·, der⟩)
  | _ => none

/-- A decoded certificate with its normal form. -/
def normalized (c : SignedCertificate) : Certificate := ⟨c, c.toElement.encode⟩

/-- The name of the subject. -/
def subject (c : Certificate) : String := c.signed.tbs.subject.text

/-- The name of the issuer. -/
def issuer (c : Certificate) : String := c.signed.tbs.issuer.text

/-- Octets without the zeros at their start, but for the last octet. -/
def withoutZeros : Bytes → Bytes
  | [] => []
  | [b] => [b]
  | b :: rest => if b = 0 then withoutZeros rest else b :: rest

/-- The serial number in upper case hexadecimal digits, without leading zero octets. -/
def serialNumber (c : Certificate) : String :=
  Text.Hex.encodeUpper (withoutZeros c.signed.tbs.serial)

/-- The first moment at which the certificate is valid. -/
def notBefore (c : Certificate) : Timestamp := c.signed.tbs.notBefore.timestamp

/-- The last moment at which the certificate is valid. -/
def notAfter (c : Certificate) : Timestamp := c.signed.tbs.notAfter.timestamp

/-- The algorithm of the public key in dotted form. -/
def publicKeyAlgorithm (c : Certificate) : String := c.signed.tbs.keyAlgorithm.algorithm.text

/-- Whether subject and issuer are the same name. The signature is not checked. -/
def isSelfSigned (c : Certificate) : Bool := c.signed.tbs.subject == c.signed.tbs.issuer

/-- Whether the basic constraints say that the subject is a certificate authority. -/
def isAuthority (c : Certificate) : Bool :=
  X509.isAuthority (c.signed.tbs.extensions.getD [])

end Certificate

/-- What a certificate shows. -/
structure Summary where
  subject : String
  issuer : String
  serialNumber : String
  notBefore : Timestamp
  notAfter : Timestamp
  publicKeyAlgorithm : String
  selfSigned : Bool
  authority : Bool
  deriving DecidableEq, Repr

/-- The summary of a certificate. -/
def Certificate.summary (c : Certificate) : Summary :=
  ⟨c.subject, c.issuer, c.serialNumber, c.notBefore, c.notAfter, c.publicKeyAlgorithm,
    c.isSelfSigned, c.isAuthority⟩

end Credential.X509
