import Credential.Key.Decode
import Credential.Key.Dsa
import Credential.Key.Rsa

/-!
# Private keys

A usable private key, built from a specification. `PrivateKey.ofFile` decodes a key file
and builds the key from it; it may abort, since the numbers of an RSA key are not checked
before its factors are recovered.
-/

namespace Credential.Key

/-- A usable private key. -/
inductive PrivateKey where
  | rsa (key : Rsa.PrivateKey)
  | dsa (key : Dsa.PrivateKey)
  deriving DecidableEq, Repr

namespace PrivateKey

/-- The algorithm of a key. -/
def algorithm : PrivateKey → Algorithm
  | .rsa _ => .rsa
  | .dsa _ => .dsa

/-- The size of the modulus of an RSA key, or of the prime of a DSA key, in bits. -/
def keySize : PrivateKey → Nat
  | .rsa key => key.keySize
  | .dsa key => bitLength key.p

/-- The diagnostic text. -/
def describe : PrivateKey → String
  | .rsa key => "Rsa(" ++ key.describe ++ ")"
  | .dsa key => "Dsa(" ++ key.describe ++ ")"

/-- The key in a PrivateKeyInfo. -/
def ofInfo (info : PrivateKeyInfo) : Outcome Error PrivateKey := do
  match ← info.keyAlgorithm with
  | .rsa =>
    let params ← RsaParameters.decode info.privateKey
    let key ← Rsa.PrivateKey.ofParameters params
    return .rsa key
  | .dsa =>
    let key ← Dsa.PrivateKey.ofInfo info
    return .dsa key

/-- The key with the given specification. -/
def ofSpecification : Specification → Outcome Error PrivateKey
  | .rsa params => (Rsa.PrivateKey.ofParameters params).map .rsa
  | .pkcs8 _ encoded => do
    let info ← PrivateKeyInfo.decode encoded
    ofInfo info

/-- The key in a key file. -/
def ofFile (bytes : Bytes) (password : Option Bytes) (options : Options) :
    Outcome Error PrivateKey := do
  let specification ← Specification.ofFile bytes password options
  ofSpecification specification

end PrivateKey

end Credential.Key
