import Credential.Key.EncryptedPkcs8
import Credential.Key.Format
import Credential.Key.Legacy.Decrypt
import Credential.Key.Pkcs1
import Credential.Key.Structure
import Credential.Pem.Parser

/-!
# Decoding key files

`Specification.ofFile` decodes a key file in any supported encoding. The password is
looked at for encrypted keys only, after everything that can be checked without it.
-/

namespace Credential.Key.Specification

/-- The specification of an encrypted PKCS#8 key. -/
def ofEncryptedPkcs8 (data : Bytes) (password : Option Bytes) (options : Options) :
    Except Error Specification := do
  let info ← EncryptedPrivateKeyInfo.decode data
  info.decrypt password options

/-- The specification of a DER encoding with a known structure. -/
def ofDer (structure_ : DerStructure) (data : Bytes) (password : Option Bytes)
    (options : Options) : Except Error Specification :=
  match structure_ with
  | .pkcs1 => ofPkcs1 data
  | .pkcs8 => ofPkcs8 data
  | .encryptedPkcs8 => ofEncryptedPkcs8 data password options

/-- The specification of an RSA key in a PEM block with headers. -/
def ofLegacy (headers : Pem.Headers) (data : Bytes) (password : Option Bytes)
    (options : Options) : Except Error Specification := do
  let plain ← Legacy.decrypt headers data password options
  (ofPkcs1 plain).mapError options.heuristic.structureFailure

/-- The specification of a PEM block. -/
def ofBlock (block : Pem.Block) (password : Option Bytes) (options : Options) :
    Except Error Specification := do
  let data ← block.decode
  match block.label with
  | .rsaPrivateKey =>
    if block.headers.isEmpty then ofPkcs1 data
    else ofLegacy block.headers data password options
  | .privateKey => ofPkcs8 data
  | .encryptedPrivateKey => ofEncryptedPkcs8 data password options
  | label => throw (.unrecognizedLabel label.text)

/-- The specification of a key file. -/
def ofFile (bytes : Bytes) (password : Option Bytes) (options : Options) :
    Except Error Specification :=
  match Format.detect bytes with
  | .pem => do
    let block ← Pem.Block.ofOctets bytes
    ofBlock block password options
  | .der => do
    let structure_ ← DerStructure.classify bytes
    ofDer structure_ bytes password options

end Credential.Key.Specification
