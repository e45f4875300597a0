import Credential.Key.Modular
import Credential.Key.Pkcs8

/-!
# DSA private keys

The domain parameters of a DSA key (RFC 3279) stand in its AlgorithmIdentifier, and the
private value is the INTEGER in the key's octets.
-/

namespace Credential.Key.Dsa

/-- A DSA private key. The private value is kept as octets. -/
structure PrivateKey where
  p : Nat
  q : Nat
  g : Nat
  x : Bytes
  deriving DecidableEq, Repr

namespace PrivateKey

/-- Reads the domain parameters, which fill `data`. -/
def readDomain (data : Bytes) : Except Error (Nat × Nat × Nat) := do
  let content ← Der.sequenceContent data
  let (p, rest) ← Der.readNat content
  let (q, rest) ← Der.readNat rest
  let (g, rest) ← Der.readNat rest
  Der.finish rest
  return (p, q, g)

/-- The key in a PrivateKeyInfo. -/
def ofInfo (info : PrivateKeyInfo) : Except Error PrivateKey := do
  match info.algorithm.parameters with
  | none => throw (.unrecognizedStructure .missingDsaParameters)
  | some data =>
    let (p, q, g) ← readDomain data
    let (x, rest) ← Der.readUnsigned info.privateKey
    Der.finish rest
    return ⟨p, q, g, x⟩

/-- The public value `g ^ x mod p`, if `p` is positive. -/
def publicKey? (key : PrivateKey) : Option Nat :=
  if key.p = 0 then none else some (Modular.powMod key.g (Bytes.toNat key.x) key.p)

/-- The diagnostic text. -/
def describe (key : PrivateKey) : String :=
  "DsaPrivateKey \x7b p_bits: " ++ toString (bitLength key.p) ++ ", q_bits: "
    ++ toString (bitLength key.q) ++ ", .. \x7d"

end PrivateKey

end Credential.Key.Dsa
