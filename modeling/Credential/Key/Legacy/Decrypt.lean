import Credential.Cipher.Decrypt
import Credential.Cipher.Rc4
import Credential.Digest.Md5
import Credential.Key.Legacy.DekInfo
import Credential.Key.Policy
import Credential.Pem.Header

/-!
# Decrypting encrypted PEM blocks

A block with the headers `Proc-Type` and `DEK-Info` carries a ciphertext. Its key is
derived from the password and the salt by chained MD5 digests. The headers, the cipher and
the policy are checked before the password is looked at.
-/

namespace Credential.Key.Legacy

/-- The next `count` chained digests, one after the other: each digest is taken of the one
before it, the password and the salt. -/
def chainedDigests (password salt : Bytes) : (count : Nat) → (previous : Bytes) → Bytes
  | 0, _ => []
  | count + 1, previous =>
    let digest := Digest.md5 (previous ++ password ++ salt)
    digest ++ chainedDigests password salt count digest

/-- The first `size` octets of the chained digests of a password and a salt. -/
def deriveKey (password salt : Bytes) (size : Nat) : Bytes :=
  (chainedDigests password salt ((size + 15) / 16) []).take size

/-- The plaintext of `data` under a key. -/
def Cipher.decrypt (cipher : Cipher) (key vector data : Bytes) :
    Except Credential.Cipher.Error Bytes :=
  match cipher with
  | .block algorithm mode => Credential.Cipher.decrypt algorithm mode key vector data
  | .rc4 _ => Credential.Cipher.rc4 key data

/-- The cipher and vector that the headers name. -/
def dekInfoOf (headers : Pem.Headers) : Except Error DekInfo :=
  match headers.get? Pem.dekInfo with
  | none => .error (.missingHeader Pem.dekInfo)
  | some value => DekInfo.ofText value

/-- The plaintext of an encrypted block. -/
def decrypt (headers : Pem.Headers) (data : Bytes) (password : Option Bytes)
    (options : Options) : Except Error Bytes := do
  if !headers.contains Pem.procType then throw (.missingHeader Pem.procType)
  let info ← dekInfoOf headers
  options.policy.check info.cipher.name info.cipher.keyBits
  match password with
  | none => throw .noPasswordProvided
  | some password =>
    let key := deriveKey password info.salt info.cipher.keyLength
    (info.cipher.decrypt key info.vector data).mapError options.heuristic.cipherFailure

end Credential.Key.Legacy
