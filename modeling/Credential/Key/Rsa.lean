import Credential.Digest.Sha1
import Credential.Key.Modular
import Credential.Key.Specification
import Credential.Outcome

/-!
# RSA private keys

An RSA key is built from its modulus and its two exponents: a division by the modulus shows
the sum of the two factors (`recoverFactors`), and the numbers are checked before the key is
handed out. No check tells whether the factors are prime.

`PrivateKey.apply` is the private operation. It takes the root of a number by its residues
modulo the two factors, and gives it out only if the public exponent leads back, from the
root of the number and from the root of a blinded one. Both hold for prime factors, and the
root is then `x ^ d mod n`. With other factors, almost every number fails.
-/

namespace Credential.Key.Rsa

/-- A private key with its recovered factors. -/
structure PrivateKey where
  modulus : Nat
  publicExponent : Nat
  privateExponent : Nat
  firstFactor : Nat
  secondFactor : Nat
  deriving DecidableEq, Repr

/-- The bound of the public exponents from which factors are recovered, `2 ^ 256`. -/
def exponentBound : Nat := Nat.pow 2 256

/-- The factors of `n` that the exponents give. With `a = (d e - 1) gcd (n - 1, d e - 1)` and
`a = m n + r` for `r < n`, the sum of the factors is `(n - r) / (m + 1) + 1`. -/
def recoverFactors (n e d : Nat) : Outcome Error (Nat × Nat) :=
  if e ≤ 65536 ∨ e ≥ exponentBound then .error (.rsa .invalidArguments)
  else if d * e = 0 ∨ n = 0 then .aborted
  else
    let k := d * e - 1
    let a := k * Nat.gcd (n - 1) k
    let m := a / n
    let r := a % n
    if (n - r) % (m + 1) ≠ 0 then .error (.rsa .invalidArguments)
    else
      let sum := (n - r) / (m + 1) + 1
      if sum * sum ≤ 4 * n then .error (.rsa .invalidArguments)
      else
        let square := sum * sum - 4 * n
        let difference := Nat.sqrt square
        if difference * difference ≠ square then .error (.rsa .invalidArguments)
        else .ok ((sum + difference) / 2, (sum - difference) / 2)

/-- The largest public exponent of a key, `2 ^ 33 - 1`. -/
def maxPublicExponent : Nat := 8589934591

/-- Checks the numbers of a key. -/
def PrivateKey.check (key : PrivateKey) : Except Error Unit :=
  let n := key.modulus
  let e := key.publicExponent
  let p := key.firstFactor
  let q := key.secondFactor
  let product := key.privateExponent * e
  if e ≥ Text.Decimal.bound64 then .error (.rsa .publicExponentTooLarge)
  else if e ≥ n ∨ n % 2 = 0 then .error (.rsa .invalidModulus)
  else if e % 2 = 0 then .error (.rsa .invalidExponent)
  else if e > maxPublicExponent then .error (.rsa .publicExponentTooLarge)
  else if p ≤ 1 ∨ q ≤ 1 then .error (.rsa .invalidPrime)
  else if p * q ≠ n then .error (.rsa .invalidModulus)
  else if product % (p - 1) ≠ 1 ∨ product % (q - 1) ≠ 1 then .error (.rsa .invalidExponent)
  else .ok ()

namespace PrivateKey

/-- The key with the given numbers. -/
def ofParameters (params : RsaParameters) : Outcome Error PrivateKey := do
  let d := Bytes.toNat params.privateExponent
  let (p, q) ← recoverFactors params.modulus params.publicExponent d
  let key : PrivateKey := ⟨params.modulus, params.publicExponent, d, p, q⟩
  key.check
  return key

/-- The size of the modulus in bits. -/
def keySize (key : PrivateKey) : Nat := bitLength key.modulus

/-- The size of the modulus in octets. -/
def size (key : PrivateKey) : Nat := byteLength key.modulus

/-- The root of `x` under the public exponent, from its residues modulo the two factors. If
the factors have a common divisor, it is taken modulo their product. -/
def root (key : PrivateKey) (x : Nat) : Nat :=
  let p := key.firstFactor
  let q := key.secondFactor
  match Modular.inverse? q p with
  | some i =>
    Modular.combine p q i (Modular.powMod x (key.privateExponent % (p - 1)) p)
      (Modular.powMod x (key.privateExponent % (q - 1)) q)
  | none => Modular.powMod x key.privateExponent key.modulus

/-- Whether the public exponent leads from the root of `x` back to `x`. -/
def isRooted (key : PrivateKey) (x : Nat) : Bool :=
  Modular.powMod (key.root x) key.publicExponent key.modulus == x

/-- The factor that blinds numbers. The modulus determines it, so that the operation has one
result. -/
def blindingFactor (key : PrivateKey) : Nat :=
  Bytes.toNat (Digest.sha1 (Bytes.bigEndian key.size key.modulus)) % key.modulus

/-- `x` times a power of the blinding factor, whose root is the root of `x` times the factor
itself. -/
def blind (key : PrivateKey) (x : Nat) : Nat :=
  x * Modular.powMod key.blindingFactor key.publicExponent key.modulus % key.modulus

/-- The private operation on a number given by its octets. The result has as many octets as
the modulus. -/
def apply (key : PrivateKey) (input : Bytes) : Except Error Bytes :=
  let x := Bytes.toNat input
  if x ≥ key.modulus then .error .inputOutOfRange
  else if key.isRooted x ∧ key.isRooted (key.blind x) then
    .ok (Bytes.bigEndian key.size (key.root x))
  else .error (.rsa .inconsistentResult)

/-- Raw decryption of a ciphertext. No padding is removed. -/
def decrypt (key : PrivateKey) (ciphertext : Bytes) : Except Error Bytes :=
  key.apply ciphertext

/-- Raw signature of a message, which is padded before. -/
def sign (key : PrivateKey) (message : Bytes) : Except Error Bytes :=
  key.apply message

/-- The diagnostic text. -/
def describe (key : PrivateKey) : String :=
  "RsaPrivateKey \x7b key_size: " ++ toString key.keySize ++ ", .. \x7d"

end PrivateKey

end Credential.Key.Rsa
