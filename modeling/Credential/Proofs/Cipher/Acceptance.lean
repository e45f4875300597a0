import Credential.Proofs.Cipher.RoundTrip
import Mathlib.Data.FinEnum
import Mathlib.Data.Set.Finite.List

/-!
# What decryption accepts

Under a key and a vector that fit, decryption undoes encryption on texts of every length, and of the
ciphertexts that a padded mode can be given it accepts exactly those whose deciphered octets are a
padded text (`decryption_accepts_padded`). All other whole blocks fail at the padding, and what is
not whole blocks fails for its length.

The deciphered octets are told by encryption alone: they are what has to be encrypted to get the
ciphertext (`Mode.encrypt_decrypt`). This is so since encryption loses nothing and there are only
finitely many texts of a length, so it reaches every ciphertext.
-/

namespace Credential.Cipher

/-! ## Every ciphertext is reached -/

/-- What can be undone on the byte strings of a length, and keeps the length, undoes as well. -/
theorem undoes_of_undone {forth back : Bytes → Bytes} {length : Nat}
    (hlength : ∀ bs, bs.length = length → (forth bs).length = length)
    (hundone : ∀ bs, bs.length = length → back (forth bs) = bs) {bs : Bytes}
    (h : bs.length = length) : forth (back bs) = bs := by
  have hfinite : {bs : Bytes | bs.length = length}.Finite := List.finite_length_eq UInt8 length
  have hmaps : Set.MapsTo forth {bs | bs.length = length} {bs | bs.length = length} := hlength
  have hinjective : Set.InjOn forth {bs | bs.length = length} := by
    intro first hfirst second hsecond heq
    rw [← hundone first hfirst, heq, hundone second hsecond]
  -- there are finitely many of the length, so a map of them that loses nothing misses none
  obtain ⟨origin, horigin, rfl⟩ :=
    ((hfinite.injOn_iff_bijOn_of_mapsTo hmaps).1 hinjective).surjOn h
  rw [hundone origin horigin]

/-- Encryption of what whole blocks are deciphered to gives the blocks back. -/
theorem Mode.encrypt_decrypt {mode : Mode} {cipher : Block} {vector data : Bytes}
    (h : cipher.Lawful) (hvector : mode.usesVector = true → vector.length = cipher.size)
    (hwhole : data.length % cipher.size = 0) :
    mode.encrypt cipher vector (mode.decrypt cipher vector data) = data := by
  have hmod {text : Bytes} (htext : text.length = data.length) :
      mode.isPadded = true → text.length % cipher.size = 0 := by
    intro _
    rw [htext, hwhole]
  have hlength : ∀ text, text.length = data.length →
      (mode.encrypt cipher vector text).length = data.length := by
    intro text htext
    rw [Mode.length_encrypt h hvector (hmod htext), htext]
  have hundone : ∀ text, text.length = data.length →
      mode.decrypt cipher vector (mode.encrypt cipher vector text) = text := by
    intro text htext
    exact Mode.decrypt_encrypt h hvector (hmod htext)
  exact undoes_of_undone hlength hundone rfl

section

variable {algorithm : Algorithm} {mode : Mode} {key vector data : Bytes}
  (hkey : key.length = algorithm.keyLength)
  (hvector : mode.usesVector = true → vector.length = algorithm.blockSize)
  (hpadded : mode.isPadded = true) (hdata : WholeBlocks algorithm.blockSize data)
include hkey hvector hpadded hdata

/-- Whole blocks are decrypted to the text that their deciphered octets are padded from. -/
theorem decrypt_eq_ok_iff_paddedBy {text : Bytes} :
    decrypt algorithm mode key vector data = .ok text ↔
      PaddedBy algorithm.blockSize text (mode.decrypt (algorithm.cipher key) vector data) := by
  rw [decrypt_of_fits hkey hvector data fun _ => hdata]
  exact unpadded_eq_ok_iff hpadded algorithm.blockSize_lt

/-- Whole blocks whose deciphered octets are no padded text fail at the padding. -/
theorem decrypt_of_not_paddedBy (h : ∀ text, ¬ PaddedBy algorithm.blockSize text
      (mode.decrypt (algorithm.cipher key) vector data)) :
    decrypt algorithm mode key vector data = .error .padding := by
  rw [decrypt_of_fits hkey hvector data fun _ => hdata]
  exact unpadded_of_not_paddedBy hpadded h

end

/-! ## RC4 -/

/-- Deciphering under RC4 is enciphering once more. -/
theorem rc4_undoes_itself {key : Bytes}
    (hkey : key.length = 5 ∨ key.length = 8 ∨ key.length = 16) (data : Bytes) :
    ∃ text, rc4 key data = .ok text ∧ text.length = data.length ∧ rc4 key text = .ok data := by
  refine ⟨Bytes.xor data (Rc4.stream data.length (Rc4.setup key)), if_pos hkey, ?_, ?_⟩
  · simp
  · exact rc4_xor_stream hkey data

/-! ## Main result -/

/-- Decryption undoes encryption under every algorithm, mode, key and vector. Of whole blocks under
a padded mode it accepts exactly those that are deciphered to a padded text, and what is not whole
blocks is refused for its length. RC4 is its own inverse, and takes keys of three lengths. -/
theorem decryption_accepts_padded :
    (∀ (algorithm : Algorithm) (mode : Mode) (key vector : Bytes),
      key.length = algorithm.keyLength →
      (mode.usesVector = true → vector.length = algorithm.blockSize) →
      (∀ text, decrypt algorithm mode key vector (encrypt algorithm mode key vector text) =
        .ok text) ∧
      (mode = .cbc ∨ mode = .ecb → ∀ data,
        (WholeBlocks algorithm.blockSize data →
          ∃ raw, raw = mode.decrypt (algorithm.cipher key) vector data ∧
            mode.encrypt (algorithm.cipher key) vector raw = data ∧
            (∀ text, decrypt algorithm mode key vector data = .ok text ↔
              ∃ count, 1 ≤ count ∧ count ≤ algorithm.blockSize ∧
                raw = text ++ List.replicate count (UInt8.ofNat count)) ∧
            ((¬ ∃ text count, 1 ≤ count ∧ count ≤ algorithm.blockSize ∧
                raw = text ++ List.replicate count (UInt8.ofNat count)) →
              decrypt algorithm mode key vector data = .error .padding)) ∧
        (¬ WholeBlocks algorithm.blockSize data →
          decrypt algorithm mode key vector data = .error (.ciphertextLength data.length)))) ∧
    (∀ key data : Bytes, key.length = 5 ∨ key.length = 8 ∨ key.length = 16 →
      ∃ text, rc4 key data = .ok text ∧ text.length = data.length ∧ rc4 key text = .ok data) ∧
    (∀ key data : Bytes, ¬ (key.length = 5 ∨ key.length = 8 ∨ key.length = 16) →
      rc4 key data = .error (.keyLength key.length)) := by
  refine ⟨?block, ?stream, ?refused⟩
  case block =>
    intro algorithm mode key vector hkey hvector
    refine ⟨decrypt_encrypt hkey hvector, fun hmode data => ?_⟩
    have hpadded := Mode.isPadded_iff.2 hmode
    constructor
    · intro hdata
      have hwhole : data.length % (algorithm.cipher key).size = 0 := by
        rw [Algorithm.size_cipher]
        exact hdata.2
      refine ⟨_, rfl, ?_, ?_, ?_⟩
      · exact Mode.encrypt_decrypt (algorithm.lawful_cipher key) (length_eq_size hvector) hwhole
      · intro text
        exact decrypt_eq_ok_iff_paddedBy hkey hvector hpadded hdata
      · intro hnone
        apply decrypt_of_not_paddedBy hkey hvector hpadded hdata
        intro text hby
        exact hnone ⟨text, hby⟩
    · intro hdata
      exact decrypt_of_not_wholeBlocks hvector hpadded hdata key
  case stream =>
    intro key data hkey
    exact rc4_undoes_itself hkey data
  case refused =>
    intro key data hkey
    exact if_neg hkey

/-- Under DES in ECB mode a text of three octets comes back, three octets are no ciphertext, and a
block of zeros that is enciphered without a padding has none when it is deciphered. RC4 with a key
of five octets gives a text back. -/
theorem decryption_accepts_padded_des :
    decrypt .des .ecb (List.replicate 8 0) []
        (encrypt .des .ecb (List.replicate 8 0) [] [1, 2, 3]) =
      .ok [1, 2, 3] ∧
    decrypt .des .ecb (List.replicate 8 0) [] [1, 2, 3] = .error (.ciphertextLength 3) ∧
    decrypt .des .ecb (List.replicate 8 0) []
        (Mode.ecb.encrypt (Algorithm.des.cipher (List.replicate 8 0)) [] (List.replicate 8 0)) =
      .error .padding ∧
    ∃ text, rc4 [1, 2, 3, 4, 5] [6, 7] = .ok text ∧ rc4 [1, 2, 3, 4, 5] text = .ok [6, 7] := by
  obtain ⟨hblock, hstream, -⟩ := decryption_accepts_padded
  obtain ⟨hundoes, haccepts⟩ := hblock .des .ecb (List.replicate 8 0) [] rfl (by decide)
  have hlawful := Algorithm.des.lawful_cipher (List.replicate 8 0)
  generalize hdata : Mode.ecb.encrypt (Algorithm.des.cipher (List.replicate 8 0)) []
    (List.replicate 8 0) = data
  have hlength : data.length = 8 := by
    rw [← hdata, Mode.length_encrypt hlawful (by decide) (fun _ => rfl)]
    rfl
  have hwhole : WholeBlocks Algorithm.des.blockSize data := by
    refine ⟨List.ne_nil_of_length_pos (by omega), ?_⟩
    rw [hlength]
    rfl
  obtain ⟨raw, hraw, -, -, hfails⟩ := (haccepts (Or.inr rfl) data).1 hwhole
  have hzeros : raw = List.replicate 8 0 := by
    rw [hraw, ← hdata]
    exact Mode.decrypt_encrypt hlawful (by decide) (fun _ => rfl)
  -- the last octet is zero, which no padding ends in
  have hnone : ¬ ∃ text count, 1 ≤ count ∧ count ≤ Algorithm.des.blockSize ∧
      raw = text ++ List.replicate count (UInt8.ofNat count) := by
    rintro ⟨text, count, hpos, hle, heq⟩
    have hpadded := unpad?_of_paddedBy (by decide) ⟨count, hpos, hle, heq⟩
    rw [hzeros] at hpadded
    cases hpadded
  obtain ⟨text, hforth, -, hback⟩ := hstream [1, 2, 3, 4, 5] [6, 7] (Or.inl rfl)
  have hshort : ¬ WholeBlocks Algorithm.des.blockSize [1, 2, 3] := by
    rintro ⟨-, hmod⟩
    cases hmod
  exact ⟨hundoes _, (haccepts (Or.inr rfl) _).2 hshort, hfails hnone, text, hforth, hback⟩

end Credential.Cipher
