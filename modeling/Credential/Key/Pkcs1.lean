import Credential.Key.Specification

/-!
# PKCS#1 private keys

RSAPrivateKey of RFC 8017: a SEQUENCE of the version 0, the modulus, the public and the
private exponent, and further numbers that are not read, since the primes are recovered
from the first three.
-/

namespace Credential.Key.RsaParameters

/-- Reads an RSAPrivateKey that fills `data`. -/
def decode (data : Bytes) : Except Error RsaParameters := do
  let content ← Der.sequenceContent data
  let (version, rest) ← Der.readNat64 content
  if version ≠ 0 then throw (.invalidVersion .rsaPrivateKey version)
  let (modulus, rest) ← Der.readNat rest
  let (publicExponent, rest) ← Der.readNat rest
  let (privateExponent, _) ← Der.readUnsigned rest
  return .ofOctets modulus publicExponent privateExponent

/-- The RSAPrivateKey of three numbers, with `tail` after them. -/
def encode (modulus publicExponent privateExponent : Nat) (tail : Bytes) : Bytes :=
  Der.encode .sequence
    (Der.encodeNat 0 ++ Der.encodeNat modulus ++ Der.encodeNat publicExponent
      ++ Der.encodeNat privateExponent ++ tail)

end Credential.Key.RsaParameters

namespace Credential.Key.Specification

/-- The specification of an RSAPrivateKey. -/
def ofPkcs1 (data : Bytes) : Except Error Specification :=
  (RsaParameters.decode data).map .rsa

end Credential.Key.Specification
