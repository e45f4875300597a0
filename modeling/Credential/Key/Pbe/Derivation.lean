import Credential.Digest.Md5
import Credential.Digest.Sha1
import Credential.Text.Utf8
import Credential.Text.Utf16

/-!
# Keys from passwords

The key derivation functions of password-based encryption. `pbkdf1` is RFC 8018,
Section 5.1. `pkcs12` is RFC 7292, Appendix B.2, with SHA-1: each output block is a digest
iterated on a diversifier block and the input blocks made of salt and password, and
between two output blocks the input blocks are advanced by the output.
-/

namespace Credential.Key.Pbe

/-- `hash` applied `iterations` times, at least once. -/
def iterated (hash : Bytes → Bytes) (iterations : Nat) (message : Bytes) : Bytes :=
  Nat.repeat hash (iterations - 1) (hash message)

/-- PBKDF1: the first 16 octets of the iterated digest of password and salt. -/
def pbkdf1 (hash : Bytes → Bytes) (password salt : Bytes) (iterations : Nat) : Bytes :=
  (iterated hash iterations (password ++ salt)).take 16

/-- The number of octets of a diversifier block and of an input block. -/
def blockSize : Nat := 64

/-- The number of octets of a SHA-1 digest. -/
def digestSize : Nat := 20

/-- `data` repeated to fill whole blocks; no octets stay no octets. -/
def filled (data : Bytes) : Bytes :=
  let count := (data.length + (blockSize - 1)) / blockSize
  (List.replicate blockSize data).flatten.take (count * blockSize)

/-- The octet-wise sum of two equally long numbers and 1, with the carry out of it. Octets are
added as words of 16 bits. -/
def addOne : Bytes → Bytes → Bytes × UInt16
  | x :: xs, y :: ys =>
    let (rest, carry) := addOne xs ys
    let sum := x.toUInt16 + y.toUInt16 + carry
    (sum.toUInt8 :: rest, sum >>> 8)
  | _, _ => ([], 1)

/-- The input blocks after an output block. -/
def advance (input output : Bytes) : Bytes :=
  let addend := filled output
  (Bytes.blocks blockSize input).flatMap fun block => (addOne block addend).1

/-- The next `count` output blocks. -/
def outputBlocks (diversifier : Bytes) (iterations : Nat) : (count : Nat) → (input : Bytes) → Bytes
  | 0, _ => []
  | count + 1, input =>
    let output := iterated Digest.sha1 iterations (diversifier ++ input)
    output ++ outputBlocks diversifier iterations count (advance input output)

/-- What the derived octets are for. -/
inductive Purpose where
  | key
  | vector
  deriving DecidableEq, Repr

/-- The octet that tells purposes apart. -/
def Purpose.octet : Purpose → UInt8
  | .key => 1
  | .vector => 2

/-- The PKCS#12 key derivation: `size` octets from an encoded password and a salt, for the purpose
with the octet `id`. -/
def pkcs12 (id : UInt8) (password salt : Bytes) (iterations size : Nat) : Bytes :=
  let diversifier := List.replicate blockSize id
  let count := (size + (digestSize - 1)) / digestSize
  (outputBlocks diversifier iterations count (filled salt ++ filled password)).take size

/-- A password as PKCS#12 encodes it: UTF-16 and two zero octets. Only a password that is
UTF-8 has such an encoding. -/
def bmpPassword? (password : Bytes) : Option Bytes :=
  (Text.Utf8.decode? password).map fun s => Text.Utf16.encode s.toList ++ [0, 0]

end Credential.Key.Pbe
