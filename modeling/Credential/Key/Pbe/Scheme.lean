import Credential.Cipher.Decrypt
import Credential.Key.Pbe.Derivation
import Credential.Key.Algorithm
import Credential.Key.Policy

/-!
# Password-based encryption schemes

The four supported schemes: two of PBES1 (RFC 8018), which derive a DES key and its initial
vector together, and two of PKCS#12 (RFC 7292), which derive triple DES keys and vectors
apart. All encrypt in CBC mode. PBES2 is known by name only.
-/

namespace Credential.Key.Pbe

/-- A password-based encryption scheme. -/
inductive Scheme where
  | md5Des
  | sha1Des
  | sha1TripleDes
  | sha1TwoKeyTripleDes
  deriving DecidableEq, Repr

/-- The object identifier of PBES2 in dotted form. -/
def pbes2 : String := "1.2.840.113549.1.5.13"

namespace Scheme

/-- All schemes. -/
def all : List Scheme := [.md5Des, .sha1Des, .sha1TripleDes, .sha1TwoKeyTripleDes]

/-- The object identifier of a scheme in dotted form. -/
def oid : Scheme → String
  | .md5Des => "1.2.840.113549.1.5.3"
  | .sha1Des => "1.2.840.113549.1.5.10"
  | .sha1TripleDes => "1.2.840.113549.1.12.1.3"
  | .sha1TwoKeyTripleDes => "1.2.840.113549.1.12.1.4"

/-- The name of a scheme. -/
def name : Scheme → String
  | .md5Des => "pbeWithMD5AndDES-CBC"
  | .sha1Des => "pbeWithSHA1AndDES-CBC"
  | .sha1TripleDes => "pbeWithSHAAnd3-KeyTripleDES-CBC"
  | .sha1TwoKeyTripleDes => "pbeWithSHAAnd2-KeyTripleDES-CBC"

/-- The scheme that an object identifier names. -/
def ofOid (oid : Der.ObjectIdentifier) : Except Error Scheme :=
  if oid.text = pbes2 then .error (.unsupportedAlgorithm "PBES2")
  else match all.find? fun scheme => scheme.oid == oid.text with
    | some scheme => .ok scheme
    | none => .error (.unsupportedAlgorithm oid.text)

/-- The block cipher of a scheme. -/
def cipher : Scheme → Cipher.Algorithm
  | .md5Des | .sha1Des => .des
  | .sha1TripleDes => .tripleDes
  | .sha1TwoKeyTripleDes => .twoKeyTripleDes

/-- The size of the cipher key in bits, parity bits included. -/
def keyBits (scheme : Scheme) : Nat := scheme.cipher.keyLength * 8

/-- The key and the initial vector for a password, if the scheme can encode it. -/
def derive? (scheme : Scheme) (password salt : Bytes) (iterations : Nat) :
    Option (Bytes × Bytes) :=
  let split (octets : Bytes) := (octets.take 8, (octets.drop 8).take 8)
  match scheme with
  | .md5Des => some (split (pbkdf1 Digest.md5 password salt iterations))
  | .sha1Des => some (split (pbkdf1 Digest.sha1 password salt iterations))
  | .sha1TripleDes | .sha1TwoKeyTripleDes =>
    (bmpPassword? password).map fun encoded =>
      (pkcs12 Purpose.key.octet encoded salt iterations scheme.cipher.keyLength,
        pkcs12 Purpose.vector.octet encoded salt iterations scheme.cipher.blockSize)

end Scheme

/-! ## Parameters -/

/-- The salt and the number of iterations of a derivation. -/
structure Parameters where
  salt : Bytes
  iterationCount : Nat
  deriving DecidableEq, Repr

namespace Parameters

/-- Reads a PBEParameter that fills `data`. -/
def decode (data : Bytes) : Except Error Parameters := do
  let content ← Der.sequenceContent data
  let (salt, rest) ← Der.readOctetString content
  let (iterationCount, rest) ← Der.readNat64 rest
  Der.finish rest
  return ⟨salt, iterationCount⟩

/-- The DER encoding. -/
def encode (params : Parameters) : Bytes :=
  Der.encode .sequence
    (Der.encode .octetString params.salt ++ Der.encodeNat params.iterationCount)

/-- The number of iterations, which is positive and fits 32 bits. -/
def iterations (params : Parameters) : Except Error Nat :=
  if 0 < params.iterationCount ∧ params.iterationCount < Text.Decimal.bound32 then
    .ok params.iterationCount
  else .error (.invalidPbeParameters (.iterationCount params.iterationCount))

end Parameters

/-- The plaintext of `data` under a password. -/
def Scheme.decrypt (scheme : Scheme) (params : Parameters) (password data : Bytes)
    (heuristic : Heuristic) : Except Error Bytes := do
  let iterations ← params.iterations
  match scheme.derive? password params.salt iterations with
  | none => throw .badPassword
  | some (key, vector) =>
    (Cipher.decrypt scheme.cipher .cbc key vector data).mapError heuristic.cipherFailure

end Credential.Key.Pbe
