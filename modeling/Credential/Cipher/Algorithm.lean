import Credential.Cipher.Aes
import Credential.Cipher.Des

/-!
# Block cipher algorithms

The six block ciphers that protect keys, with their names, key lengths and block sizes.
Two-key triple DES uses its first key again as the third one.
-/

namespace Credential.Cipher

/-- A block cipher algorithm. -/
inductive Algorithm where
  | aes128
  | aes192
  | aes256
  | des
  | twoKeyTripleDes
  | tripleDes
  deriving DecidableEq, Repr

namespace Algorithm

/-- All algorithms. -/
def all : List Algorithm := [.aes128, .aes192, .aes256, .des, .twoKeyTripleDes, .tripleDes]

/-- The number of key octets. -/
def keyLength : Algorithm → Nat
  | .aes128 => 16
  | .aes192 => 24
  | .aes256 => 32
  | .des => 8
  | .twoKeyTripleDes => 16
  | .tripleDes => 24

/-- The number of octets of a block. -/
def blockSize : Algorithm → Nat
  | .aes128 | .aes192 | .aes256 => 16
  | .des | .twoKeyTripleDes | .tripleDes => 8

/-- The name of an algorithm. -/
def name : Algorithm → String
  | .aes128 => "AES-128"
  | .aes192 => "AES-192"
  | .aes256 => "AES-256"
  | .des => "DES"
  | .twoKeyTripleDes => "DES-EDE"
  | .tripleDes => "DES-EDE3"

/-- The algorithm under a key of its key length. -/
def cipher (algorithm : Algorithm) (key : Bytes) : Block :=
  match algorithm with
  | .aes128 | .aes192 | .aes256 => Aes.cipher key
  | .des => Des.cipher key
  | .twoKeyTripleDes => Des.tripleCipher (key.take 8) (key.drop 8) (key.take 8)
  | .tripleDes => Des.tripleCipher (key.take 8) ((key.drop 8).take 8) (key.drop 16)

end Algorithm

end Credential.Cipher
