import Credential.Cipher.Rc4
import Credential.Proofs.Cipher.Aes
import Credential.Proofs.Cipher.Des
import Credential.Proofs.Cipher.Mode
import Credential.Proofs.Cipher.Padding

/-!
# Decryption after encryption

`decrypt_encrypt`: under every algorithm, every mode and every key and vector that fit, a text of
any length is what decryption makes of its encryption. The algorithms are lawful block ciphers
(`Algorithm.lawful_cipher`), and the padding that the padded modes add is taken off again
(`unpad?_pad`). `rc4_xor_stream` is the same for RC4.
-/

namespace Credential.Cipher

/-! ## Block ciphers -/

namespace Algorithm

@[simp] theorem size_cipher (algorithm : Algorithm) (key : Bytes) :
    (algorithm.cipher key).size = algorithm.blockSize := by
  cases algorithm <;> rfl

theorem blockSize_pos (algorithm : Algorithm) : 0 < algorithm.blockSize := by
  cases algorithm <;> decide

theorem blockSize_lt (algorithm : Algorithm) : algorithm.blockSize < 256 := by
  cases algorithm <;> decide

theorem lawful_aes (key : Bytes) : (Aes.cipher key).Lawful where
  size_pos := Nat.succ_pos 15
  length_encrypt := fun block _ => Aes.length_cipher_encrypt key block
  decrypt_encrypt := fun _ h => Aes.cipher_decrypt_encrypt key h

theorem lawful_des (key : Bytes) : (Des.cipher key).Lawful where
  size_pos := Nat.succ_pos 7
  length_encrypt := fun block _ => Des.length_cipher_encrypt key block
  decrypt_encrypt := fun _ h => Des.cipher_decrypt_encrypt key h

theorem lawful_tripleDes (first second third : Bytes) :
    (Des.tripleCipher first second third).Lawful where
  size_pos := Nat.succ_pos 7
  length_encrypt := fun block _ => Des.length_tripleCipher_encrypt first second third block
  decrypt_encrypt := fun _ h => Des.tripleCipher_decrypt_encrypt first second third h

/-- Every algorithm is a lawful block cipher under every key. -/
theorem lawful_cipher (algorithm : Algorithm) (key : Bytes) : (algorithm.cipher key).Lawful := by
  cases algorithm with
  | aes128 => exact lawful_aes key
  | aes192 => exact lawful_aes key
  | aes256 => exact lawful_aes key
  | des => exact lawful_des key
  | twoKeyTripleDes => exact lawful_tripleDes _ _ _
  | tripleDes => exact lawful_tripleDes _ _ _

end Algorithm

section

variable {algorithm : Algorithm} {mode : Mode} {key vector : Bytes}

/-- What a mode encrypts is whole blocks, if the mode is padded. -/
theorem wholeBlocks_padded (algorithm : Algorithm) (text : Bytes) (hpadded : mode.isPadded = true) :
    WholeBlocks algorithm.blockSize
      (if mode.isPadded then pad algorithm.blockSize text else text) := by
  rw [if_pos hpadded]
  exact wholeBlocks_pad algorithm.blockSize_pos text

/-- A vector that fits has one block of the cipher where the mode takes one. -/
theorem length_eq_size (hvector : mode.usesVector = true → vector.length = algorithm.blockSize) :
    mode.usesVector = true → vector.length = (algorithm.cipher key).size := by
  rwa [Algorithm.size_cipher]

/-- Encryption keeps the length of what it is given, padding included. -/
theorem length_encrypt (hvector : mode.usesVector = true → vector.length = algorithm.blockSize)
    (text : Bytes) :
    (encrypt algorithm mode key vector text).length =
      (if mode.isPadded then pad algorithm.blockSize text else text).length := by
  unfold encrypt
  apply Mode.length_encrypt (algorithm.lawful_cipher key) (length_eq_size hvector)
  rw [Algorithm.size_cipher]
  exact fun hpadded => (wholeBlocks_padded algorithm text hpadded).2

theorem encrypt_ne_nil (hvector : mode.usesVector = true → vector.length = algorithm.blockSize)
    {text : Bytes} (h : text ≠ []) : encrypt algorithm mode key vector text ≠ [] := by
  have hpos : 0 < text.length := List.length_pos_iff.2 h
  apply List.length_pos_iff.1
  rw [length_encrypt hvector]
  split
  · rw [length_pad]
    omega
  · exact hpos

/-- What a padded mode makes of a text is whole blocks. -/
theorem wholeBlocks_encrypt
    (hvector : mode.usesVector = true → vector.length = algorithm.blockSize) (text : Bytes)
    (hpadded : mode.isPadded = true) :
    WholeBlocks algorithm.blockSize (encrypt algorithm mode key vector text) := by
  obtain ⟨hne, hmod⟩ := wholeBlocks_padded algorithm text hpadded
  have hpos := List.length_pos_iff.2 hne
  have hlength := @length_encrypt algorithm mode key vector hvector text
  constructor
  · apply List.length_pos_iff.1
    omega
  · rw [hlength]
    exact hmod

/-- Decryption of the encryption of a text is the text. -/
theorem decrypt_encrypt (hkey : key.length = algorithm.keyLength)
    (hvector : mode.usesVector = true → vector.length = algorithm.blockSize) (text : Bytes) :
    decrypt algorithm mode key vector (encrypt algorithm mode key vector text) = .ok text := by
  have hfull : mode.isPadded = true →
      (if mode.isPadded then pad algorithm.blockSize text else text).length %
        (algorithm.cipher key).size = 0 := by
    rw [Algorithm.size_cipher]
    exact fun hpadded => (wholeBlocks_padded algorithm text hpadded).2
  have hmode : mode.decrypt (algorithm.cipher key) vector (encrypt algorithm mode key vector text) =
      if mode.isPadded then pad algorithm.blockSize text else text := by
    unfold encrypt
    exact Mode.decrypt_encrypt (algorithm.lawful_cipher key) (length_eq_size hvector) hfull
  rw [decrypt_of_fits hkey hvector _ (wholeBlocks_encrypt hvector text), hmode]
  unfold unpadded
  cases mode.isPadded with
  | true =>
      rw [if_pos rfl, if_pos rfl, unpad?_pad algorithm.blockSize_pos algorithm.blockSize_lt]
  | false => rfl

end

/-! ## RC4 -/

@[simp] theorem Rc4.length_stream (count : Nat) (s : Rc4.State) :
    (Rc4.stream count s).length = count := by
  induction count generalizing s with
  | zero => rfl
  | succ count ih => exact congrArg (· + 1) (ih _)

/-- RC4 on a text combined with the key stream. -/
theorem rc4_xor_stream {key : Bytes}
    (hkey : key.length = 5 ∨ key.length = 8 ∨ key.length = 16) (text : Bytes) :
    rc4 key (Bytes.xor text (Rc4.stream text.length (Rc4.setup key))) = .ok text := by
  have hlength : (Bytes.xor text (Rc4.stream text.length (Rc4.setup key))).length =
      text.length := by
    rw [Bytes.length_xor, Rc4.length_stream, Nat.min_self]
  unfold rc4
  rw [if_pos hkey, hlength, Bytes.xor_xor_cancel (Nat.le_of_eq (Rc4.length_stream _ _).symm)]

end Credential.Cipher
