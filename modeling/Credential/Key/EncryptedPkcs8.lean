import Credential.Key.Pbe.Scheme
import Credential.Key.Pkcs8

/-!
# Encrypted PKCS#8 private keys

EncryptedPrivateKeyInfo of RFC 5958: an AlgorithmIdentifier that names a password-based
encryption scheme, and the ciphertext of a PrivateKeyInfo. The scheme, the policy and the
parameters are checked before the password is looked at, so their faults are reported
whether or not there is one.
-/

namespace Credential.Key

/-- A private key encrypted under a password. -/
structure EncryptedPrivateKeyInfo where
  encryption : AlgorithmIdentifier
  encryptedData : Bytes
  deriving DecidableEq, Repr

namespace EncryptedPrivateKeyInfo

/-- Reads an EncryptedPrivateKeyInfo that fills `data`. -/
def decode (data : Bytes) : Except Error EncryptedPrivateKeyInfo := do
  let content ← Der.sequenceContent data
  let (identifier, rest) ← Der.readElement content
  let encryption ← AlgorithmIdentifier.decode identifier
  let (encryptedData, rest) ← Der.readOctetString rest
  Der.finish rest
  return ⟨encryption, encryptedData⟩

/-- The DER encoding. -/
def encode (info : EncryptedPrivateKeyInfo) : Bytes :=
  Der.encode .sequence
    (info.encryption.encode ++ Der.encode .octetString info.encryptedData)

/-- The encryption scheme. -/
def scheme (info : EncryptedPrivateKeyInfo) : Except Error Pbe.Scheme :=
  Pbe.Scheme.ofOid info.encryption.algorithm

/-- The parameters of the encryption scheme. -/
def parameters (info : EncryptedPrivateKeyInfo) : Except Error Pbe.Parameters :=
  match info.encryption.parameters with
  | none => .error (.invalidPbeParameters .missing)
  | some data => Pbe.Parameters.decode data

/-- The specification of the encrypted key. -/
def decrypt (info : EncryptedPrivateKeyInfo) (password : Option Bytes) (options : Options) :
    Except Error Specification := do
  let scheme ← info.scheme
  options.policy.check scheme.name scheme.keyBits
  let params ← info.parameters
  match password with
  | none => throw .noPasswordProvided
  | some password =>
    let plain ← scheme.decrypt params password info.encryptedData options.heuristic
    (Specification.ofPkcs8 plain).mapError options.heuristic.structureFailure

end EncryptedPrivateKeyInfo

end Credential.Key
