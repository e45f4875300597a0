import Credential.Key.Decode

/-!
# What a key file shows without a password

`Info.ofFile` reports the format, the structure, the algorithm and the encryption of a key
file without decrypting it. An encrypted PKCS#8 key shows no algorithm, and a cleartext
PKCS#8 key shows one only if it is known.
-/

namespace Credential.Key

/-- What a key file shows without a password. -/
structure Info where
  format : Format
  label : Option String
  structure_ : Structure
  algorithm : Option Algorithm
  encryption : Option String
  deriving DecidableEq, Repr

namespace Info

/-- Whether the key is encrypted. -/
def isEncrypted (info : Info) : Bool := info.encryption.isSome

/-- The name of the scheme that encrypts a PKCS#8 key, supported or not. -/
def schemeName (info : EncryptedPrivateKeyInfo) : Except Error String :=
  match info.scheme with
  | .ok scheme => .ok scheme.name
  | .error (.unsupportedAlgorithm name) => .ok name
  | .error cause => .error cause

/-- What a DER encoding with a known structure shows. -/
def ofDer (format : Format) (label : Option String) (structure_ : DerStructure)
    (data : Bytes) : Except Error Info :=
  match structure_ with
  | .pkcs1 => do
    let _ ← RsaParameters.decode data
    return ⟨format, label, .pkcs1, some .rsa, none⟩
  | .pkcs8 => do
    let info ← PrivateKeyInfo.decode data
    return ⟨format, label, .pkcs8, info.keyAlgorithm.toOption, none⟩
  | .encryptedPkcs8 => do
    let info ← EncryptedPrivateKeyInfo.decode data
    let name ← schemeName info
    return ⟨format, label, .encryptedPkcs8, none, some name⟩

/-- What a PEM block shows. -/
def ofBlock (block : Pem.Block) : Except Error Info := do
  let data ← block.decode
  let label := block.label.text
  match block.label with
  | .rsaPrivateKey =>
    if block.headers.isEmpty then ofDer .pem label .pkcs1 data
    else
      let info ← Legacy.dekInfoOf block.headers
      return ⟨.pem, label, .legacyEncryptedPkcs1, some .rsa, some info.cipher.name⟩
  | .privateKey => ofDer .pem label .pkcs8 data
  | .encryptedPrivateKey => ofDer .pem label .encryptedPkcs8 data
  | _ => throw (.unrecognizedLabel label)

/-- What a key file shows. -/
def ofFile (bytes : Bytes) : Except Error Info :=
  match Format.detect bytes with
  | .pem => do
    let block ← Pem.Block.ofOctets bytes
    ofBlock block
  | .der => do
    let structure_ ← DerStructure.classify bytes
    ofDer .der none structure_ bytes

end Info

end Credential.Key
