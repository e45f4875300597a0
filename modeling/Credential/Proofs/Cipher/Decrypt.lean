import Credential.Cipher.Decrypt

/-!
# Decryption under keys and vectors that fit

With a key of the cipher's key length and a vector of one block, `decrypt` can be at fault for two
things only: data that are not whole blocks where the mode wants them, and a wrong padding
(`decrypt_of_fits`).
-/

namespace Credential.Cipher

/-- The modes that pad are the two that work on whole blocks. -/
theorem Mode.isPadded_iff {mode : Mode} : mode.isPadded = true ↔ mode = .cbc ∨ mode = .ecb := by
  cases mode <;> simp [Mode.isPadded]

/-- At least one block, and no part of one left over. -/
def WholeBlocks (size : Nat) (data : Bytes) : Prop :=
  data ≠ [] ∧ data.length % size = 0

theorem not_wholeBlocks_iff {size : Nat} {data : Bytes} :
    ¬ WholeBlocks size data ↔ data = [] ∨ data.length % size ≠ 0 := by
  unfold WholeBlocks
  rw [Decidable.not_and_iff_not_or_not, Decidable.not_not]

/-- The text of a decryption, without its padding if the mode pads. -/
def unpadded (algorithm : Algorithm) (mode : Mode) (text : Bytes) : Except Error Bytes :=
  if mode.isPadded then
    match unpad? algorithm.blockSize text with
    | some text => .ok text
    | none => .error .padding
  else .ok text

/-- A decryption whose key and vector fit. -/
theorem decrypt_of_fits {algorithm : Algorithm} {mode : Mode} {key vector : Bytes}
    (hkey : key.length = algorithm.keyLength)
    (hvector : mode.usesVector = true → vector.length = algorithm.blockSize) (data : Bytes)
    (hdata : mode.isPadded = true → WholeBlocks algorithm.blockSize data) :
    decrypt algorithm mode key vector data =
      unpadded algorithm mode (mode.decrypt (algorithm.cipher key) vector data) := by
  have hv : ¬ (mode.usesVector ∧ vector.length ≠ algorithm.blockSize) := by
    rintro ⟨hu, hne⟩
    exact hne (hvector hu)
  have hd : ¬ (mode.isPadded ∧ (data = [] ∨ data.length % algorithm.blockSize ≠ 0)) := by
    rintro ⟨hp, hempty | hpart⟩
    · exact (hdata hp).1 hempty
    · exact hpart (hdata hp).2
  unfold decrypt
  dsimp only
  rw [if_neg hv, if_neg hd, if_neg (by simp [hkey])]
  rfl

/-- Data that are not whole blocks are refused before the key is looked at. -/
theorem decrypt_of_not_wholeBlocks {algorithm : Algorithm} {mode : Mode} {vector data : Bytes}
    (hvector : mode.usesVector = true → vector.length = algorithm.blockSize)
    (hpadded : mode.isPadded = true) (hdata : ¬ WholeBlocks algorithm.blockSize data)
    (key : Bytes) :
    decrypt algorithm mode key vector data = .error (.ciphertextLength data.length) := by
  have hv : ¬ (mode.usesVector ∧ vector.length ≠ algorithm.blockSize) := by
    rintro ⟨hu, hne⟩
    exact hne (hvector hu)
  have hd : mode.isPadded ∧ (data = [] ∨ data.length % algorithm.blockSize ≠ 0) :=
    ⟨hpadded, not_wholeBlocks_iff.1 hdata⟩
  unfold decrypt
  dsimp only
  rw [if_neg hv, if_pos hd]

theorem unpadded_cases (algorithm : Algorithm) (mode : Mode) (text : Bytes) :
    (∃ plain, unpadded algorithm mode text = .ok plain) ∨
      unpadded algorithm mode text = .error .padding := by
  unfold unpadded
  split
  · split
    · exact Or.inl ⟨_, rfl⟩
    · exact Or.inr rfl
  · exact Or.inl ⟨_, rfl⟩

/-- With a key and a vector that fit, every fault but a wrong padding is one of the length of the
data. -/
theorem decrypt_eq_fault_iff {algorithm : Algorithm} {mode : Mode} {key vector data : Bytes}
    {cause : Error} (hkey : key.length = algorithm.keyLength)
    (hvector : mode.usesVector = true → vector.length = algorithm.blockSize) :
    decrypt algorithm mode key vector data = .error cause ∧ cause ≠ .padding ↔
      mode.isPadded = true ∧ ¬ WholeBlocks algorithm.blockSize data ∧
        cause = .ciphertextLength data.length := by
  by_cases hdata : mode.isPadded = true → WholeBlocks algorithm.blockSize data
  · -- only the padding is left to be wrong
    rw [decrypt_of_fits hkey hvector data hdata]
    constructor
    · rintro ⟨h, hne⟩
      rcases unpadded_cases algorithm mode (mode.decrypt (algorithm.cipher key) vector data)
        with ⟨plain, hplain⟩ | hpadding
      · cases h.symm.trans hplain
      · cases h.symm.trans hpadding
        exact absurd rfl hne
    · rintro ⟨hpadded, hparts, -⟩
      exact absurd (hdata hpadded) hparts
  · obtain ⟨hpadded, hparts⟩ := Classical.not_imp.1 hdata
    rw [decrypt_of_not_wholeBlocks hvector hpadded hparts]
    constructor
    · rintro ⟨h, -⟩
      cases h
      exact ⟨hpadded, hparts, rfl⟩
    · rintro ⟨-, -, rfl⟩
      exact ⟨rfl, by simp⟩

end Credential.Cipher
