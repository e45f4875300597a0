import Credential.Key.Info
import Credential.Proofs.Key.FaultKind

/-!
# Containers of key files

What a key file is before its octets are read as a key: a format, a label and the octets of one of
four structures. `Container.ofFile` finds it, and the two readers of key files, the one that decodes
(`Specification.ofFile_eq`) and the one that only looks (`Info.ofFile_eq`), are both that search
followed by one step that depends on the structure. So both take every file for the same structure,
and report the same fault if there is none.
-/

namespace Credential.Key

/-- The structure of the octets in a container. -/
inductive Wrapping where
  | pkcs1
  | legacy (headers : Pem.Headers)
  | pkcs8
  | encryptedPkcs8
  deriving DecidableEq, Repr

/-- A key file whose octets are not read yet. -/
structure Container where
  format : Format
  label : Option String
  wrapping : Wrapping
  data : Bytes
  deriving DecidableEq, Repr

/-- The wrapping that the tags of a DER file tell. -/
def Wrapping.ofDer : DerStructure → Wrapping
  | .pkcs1 => .pkcs1
  | .pkcs8 => .pkcs8
  | .encryptedPkcs8 => .encryptedPkcs8

/-- The wrapping of an RSA block with the given headers. -/
def Wrapping.ofHeaders (headers : Pem.Headers) : Wrapping :=
  if headers.isEmpty then .pkcs1 else .legacy headers

/-- The structure that a wrapping is reported as. -/
def Wrapping.structure_ : Wrapping → Structure
  | .pkcs1 => .pkcs1
  | .legacy _ => .legacyEncryptedPkcs1
  | .pkcs8 => .pkcs8
  | .encryptedPkcs8 => .encryptedPkcs8

namespace Container

/-- The container in a PEM block. -/
def ofBlock (block : Pem.Block) : Except Error Container := do
  let data ← block.decode
  match block.label with
  | .rsaPrivateKey => return ⟨.pem, block.label.text, .ofHeaders block.headers, data⟩
  | .privateKey => return ⟨.pem, block.label.text, .pkcs8, data⟩
  | .encryptedPrivateKey => return ⟨.pem, block.label.text, .encryptedPkcs8, data⟩
  | label => throw (.unrecognizedLabel label.text)

/-- The container in a key file. -/
def ofFile (bytes : Bytes) : Except Error Container :=
  match Format.detect bytes with
  | .pem => do
    let block ← Pem.Block.ofOctets bytes
    ofBlock block
  | .der => do
    let structure_ ← DerStructure.classify bytes
    return ⟨.der, none, .ofDer structure_, bytes⟩

/-- The specification of the key in a container. -/
def specification (container : Container) (password : Option Bytes) (options : Options) :
    Except Error Specification :=
  match container.wrapping with
  | .pkcs1 => Specification.ofPkcs1 container.data
  | .legacy headers => Specification.ofLegacy headers container.data password options
  | .pkcs8 => Specification.ofPkcs8 container.data
  | .encryptedPkcs8 => Specification.ofEncryptedPkcs8 container.data password options

/-- What a container shows without a password. -/
def info (container : Container) : Except Error Info :=
  match container.wrapping with
  | .pkcs1 => Info.ofDer container.format container.label .pkcs1 container.data
  | .legacy headers => do
    let info ← Legacy.dekInfoOf headers
    return ⟨container.format, container.label, .legacyEncryptedPkcs1, some .rsa,
      some info.cipher.name⟩
  | .pkcs8 => Info.ofDer container.format container.label .pkcs8 container.data
  | .encryptedPkcs8 => Info.ofDer container.format container.label .encryptedPkcs8 container.data

theorem faults_ofFile (bytes : Bytes) : Faults Error.IsReading (ofFile bytes) := by
  unfold ofFile
  split
  · refine (faults_pem _).bind fun block => ?_
    unfold ofBlock
    refine (faults_pem _).bind fun data => ?_
    split
    · exact faults_pure _
    · exact faults_pure _
    · exact faults_pure _
    · exact faults_error trivial
  · exact (DerStructure.faults_classify bytes).bind fun _ => faults_pure _

/-- The faults of a file that holds no container. -/
theorem faultsIn_ofFile (bytes : Bytes) : FaultsIn Kind.ofClear (ofFile bytes) :=
  (faults_ofFile bytes).ofClear

end Container

open Container

/-! ## Both readers go through containers -/

theorem Specification.ofBlock_eq (block : Pem.Block) (password : Option Bytes)
    (options : Options) :
    Specification.ofBlock block password options =
      (Container.ofBlock block).bind fun c => c.specification password options := by
  unfold Specification.ofBlock Container.ofBlock
  rcases block with ⟨label, headers, payload⟩
  cases Pem.Block.decode ⟨label, headers, payload⟩ with
  | error e => rfl
  | ok data =>
      cases label with
      | rsaPrivateKey => cases headers <;> rfl
      | privateKey => rfl
      | encryptedPrivateKey => rfl
      | certificate => rfl
      | other text => rfl

/-- Decoding a key file is finding its container and decoding that. -/
theorem Specification.ofFile_eq (bytes : Bytes) (password : Option Bytes) (options : Options) :
    Specification.ofFile bytes password options =
      (Container.ofFile bytes).bind fun c => c.specification password options := by
  unfold Specification.ofFile Container.ofFile
  cases Format.detect bytes with
  | pem =>
      cases Pem.Block.ofOctets bytes with
      | error e => rfl
      | ok block => exact Specification.ofBlock_eq block password options
  | der =>
      cases DerStructure.classify bytes with
      | error e => rfl
      | ok structure_ => cases structure_ <;> rfl

theorem Info.ofBlock_eq (block : Pem.Block) :
    Info.ofBlock block = (Container.ofBlock block).bind Container.info := by
  unfold Info.ofBlock Container.ofBlock
  rcases block with ⟨label, headers, payload⟩
  cases Pem.Block.decode ⟨label, headers, payload⟩ with
  | error e => rfl
  | ok data =>
      cases label with
      | rsaPrivateKey => cases headers <;> rfl
      | privateKey => rfl
      | encryptedPrivateKey => rfl
      | certificate => rfl
      | other text => rfl

/-- Looking at a key file is finding its container and looking at that. -/
theorem Info.ofFile_eq (bytes : Bytes) :
    Info.ofFile bytes = (Container.ofFile bytes).bind Container.info := by
  unfold Info.ofFile Container.ofFile
  cases Format.detect bytes with
  | pem =>
      cases Pem.Block.ofOctets bytes with
      | error e => rfl
      | ok block => exact Info.ofBlock_eq block
  | der =>
      cases DerStructure.classify bytes with
      | error e => rfl
      | ok structure_ => cases structure_ <;> rfl

end Credential.Key
