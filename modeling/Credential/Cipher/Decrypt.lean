import Credential.Cipher.Algorithm
import Credential.Cipher.Error
import Credential.Cipher.Mode
import Credential.Cipher.Padding

/-!
# Decryption under a block cipher

`decrypt` checks the length of the initial vector, then that of the data, then that of the
key, and last the padding. `encrypt` is the other direction, without checks.
-/

namespace Credential.Cipher

/-- The plaintext of `data`, without padding. -/
def decrypt (algorithm : Algorithm) (mode : Mode) (key vector data : Bytes) :
    Except Error Bytes :=
  let size := algorithm.blockSize
  if mode.usesVector ∧ vector.length ≠ size then .error (.ivLength size vector.length)
  else if mode.isPadded ∧ (data = [] ∨ data.length % size ≠ 0) then
    .error (.ciphertextLength data.length)
  else if key.length ≠ algorithm.keyLength then .error (.keyLength key.length)
  else
    let text := mode.decrypt (algorithm.cipher key) vector data
    if mode.isPadded then
      match unpad? size text with
      | some text => .ok text
      | none => .error .padding
    else .ok text

/-- The ciphertext of `text`, which is padded first where the mode wants whole blocks. -/
def encrypt (algorithm : Algorithm) (mode : Mode) (key vector text : Bytes) : Bytes :=
  let padded := if mode.isPadded then pad algorithm.blockSize text else text
  mode.encrypt (algorithm.cipher key) vector padded

end Credential.Cipher
