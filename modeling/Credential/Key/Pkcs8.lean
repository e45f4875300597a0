import Credential.Key.Specification

/-!
# PKCS#8 private keys

PrivateKeyInfo of RFC 5208: a SEQUENCE of the version 0, an AlgorithmIdentifier, the key
in an OCTET STRING, and attributes that are not read.
-/

namespace Credential.Key

/-- A private key with its algorithm. -/
structure PrivateKeyInfo where
  algorithm : AlgorithmIdentifier
  privateKey : Bytes
  deriving DecidableEq, Repr

namespace PrivateKeyInfo

/-- Reads a PrivateKeyInfo that fills `data`. -/
def decode (data : Bytes) : Except Error PrivateKeyInfo := do
  let content ← Der.sequenceContent data
  let (version, rest) ← Der.readNat64 content
  if version ≠ 0 then throw (.invalidVersion .privateKeyInfo version)
  let (identifier, rest) ← Der.readElement rest
  let algorithm ← AlgorithmIdentifier.decode identifier
  let (privateKey, _) ← Der.readOctetString rest
  return ⟨algorithm, privateKey⟩

/-- The algorithm of the key. -/
def keyAlgorithm (info : PrivateKeyInfo) : Except Error Algorithm :=
  Algorithm.ofOid info.algorithm.algorithm

/-- The DER encoding, with `tail` for the attributes. -/
def encode (info : PrivateKeyInfo) (tail : Bytes) : Bytes :=
  Der.encode .sequence
    (Der.encodeNat 0 ++ info.algorithm.encode ++ Der.encode .octetString info.privateKey ++ tail)

end PrivateKeyInfo

namespace Specification

/-- The specification of a PrivateKeyInfo, which is kept whole. Its algorithm is known. -/
def ofPkcs8 (data : Bytes) : Except Error Specification := do
  let info ← PrivateKeyInfo.decode data
  let _ ← info.keyAlgorithm
  return .pkcs8 info.algorithm.algorithm data

end Specification

end Credential.Key
