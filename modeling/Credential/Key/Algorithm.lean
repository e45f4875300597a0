import Credential.Der.Writer
import Credential.Key.Error

/-!
# Key algorithms and algorithm identifiers

The object identifiers that a key file may name, the two key algorithms, and the
AlgorithmIdentifier of RFC 5280: an object identifier and one optional element of
parameters, kept in its encoding.
-/

namespace Credential.Key

open Der (ObjectIdentifier)

/-- rsaEncryption. -/
def rsaEncryption : String := "1.2.840.113549.1.1.1"

/-- id-dsa. -/
def idDsa : String := "1.2.840.10040.4.1"

/-- The algorithm of a private key. -/
inductive Algorithm where
  | rsa
  | dsa
  deriving DecidableEq, Repr

namespace Algorithm

/-- The object identifier of an algorithm in dotted form. -/
def oid : Algorithm → String
  | .rsa => rsaEncryption
  | .dsa => idDsa

/-- The name of an algorithm. -/
def name : Algorithm → String
  | .rsa => "RSA"
  | .dsa => "DSA"

/-- All algorithms. -/
def all : List Algorithm := [.rsa, .dsa]

/-- The algorithm that an object identifier names. -/
def ofOid (oid : ObjectIdentifier) : Except Error Algorithm :=
  if oid.text = rsaEncryption then .ok .rsa
  else if oid.text = idDsa then .ok .dsa
  else .error (.unsupportedAlgorithm oid.text)

end Algorithm

/-- An algorithm with its parameters in DER. -/
structure AlgorithmIdentifier where
  algorithm : ObjectIdentifier
  parameters : Option Bytes
  deriving DecidableEq, Repr

namespace AlgorithmIdentifier

/-- Reads an AlgorithmIdentifier that fills `data`. -/
def decode (data : Bytes) : Except Error AlgorithmIdentifier := do
  let content ← Der.sequenceContent data
  let (algorithm, rest) ← Der.readObjectIdentifier content
  if rest.isEmpty then return ⟨algorithm, none⟩
  else
    let (parameters, rest) ← Der.readElement rest
    Der.finish rest
    return ⟨algorithm, some parameters⟩

/-- The DER encoding. -/
def encode (id : AlgorithmIdentifier) : Bytes :=
  Der.encode .sequence
    (Der.encode .objectIdentifier id.algorithm.content ++ id.parameters.getD [])

end AlgorithmIdentifier

end Credential.Key
