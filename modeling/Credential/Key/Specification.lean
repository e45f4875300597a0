import Credential.Key.Algorithm
import Credential.Text.Quoted

/-!
# Key specifications

What a key file says about its key, before the key is built: the numbers of an RSA key, or
a PKCS#8 structure kept whole. The diagnostic texts show sizes and no secrets.
-/

namespace Credential.Key

/-- The numbers of an RSA key. The private exponent is kept as octets without leading
zeros. -/
structure RsaParameters where
  modulus : Nat
  publicExponent : Nat
  privateExponent : Bytes
  deriving DecidableEq, Repr

namespace RsaParameters

/-- The parameters with the given private exponent, which may have leading zeros. -/
def ofOctets (modulus publicExponent : Nat) (privateExponent : Bytes) : RsaParameters :=
  ⟨modulus, publicExponent, privateExponent.dropWhile (· == 0)⟩

/-- The size of the modulus in bits. -/
def keySize (params : RsaParameters) : Nat := bitLength params.modulus

/-- The diagnostic text. -/
def describe (params : RsaParameters) : String :=
  "RsaParams \x7b key_size: " ++ toString params.keySize
    ++ ", private_exponent: \"<redacted>\" \x7d"

end RsaParameters

/-- What a key file says about its key. -/
inductive Specification where
  | rsa (params : RsaParameters)
  | pkcs8 (algorithm : Der.ObjectIdentifier) (encoded : Bytes)
  deriving DecidableEq, Repr

namespace Specification

/-- The algorithm of the key, if it is a known one. -/
def algorithm? : Specification → Option Algorithm
  | .rsa _ => some .rsa
  | .pkcs8 algorithm _ => (Algorithm.ofOid algorithm).toOption

/-- The diagnostic text. -/
def describe : Specification → String
  | .rsa params => "Rsa(" ++ params.describe ++ ")"
  | .pkcs8 algorithm encoded =>
    "Opaque \x7b algorithm: " ++ Text.Quoted.text algorithm.text ++ ", encoded_len: "
      ++ toString encoded.length ++ " \x7d"

end Specification

end Credential.Key
