import Credential.Key.Legacy.Decrypt
import Credential.Key.Pbe.Scheme

/-!
# Lengths of derived keys

Every derivation gives exactly as many octets as its cipher takes: `deriveKey` as many as asked for,
`Scheme.derive?` a key of the cipher's key length and a vector of one block. So a decryption is
never at fault for the length of a key or of a vector that came from a password.
-/

namespace Credential.Key

/-! ## Chained digests -/

namespace Legacy

theorem length_chainedDigests (password salt : Bytes) (count : Nat) (previous : Bytes) :
    (chainedDigests password salt count previous).length = 16 * count := by
  induction count generalizing previous with
  | zero => rfl
  | succ count ih =>
      have hdigest := Digest.length_md5 (previous ++ password ++ salt)
      simp only [chainedDigests, List.length_append, hdigest, ih]
      omega

@[simp] theorem length_deriveKey (password salt : Bytes) (size : Nat) :
    (deriveKey password salt size).length = size := by
  unfold deriveKey
  rw [List.length_take, length_chainedDigests]
  -- rounding up to whole digests leaves enough octets
  omega

end Legacy

/-! ## Password-based encryption -/

namespace Pbe

/-- A digest that is iterated keeps its length. -/
theorem length_iterated {hash : Bytes → Bytes} {size : Nat} (h : ∀ m, (hash m).length = size)
    (iterations : Nat) (message : Bytes) : (iterated hash iterations message).length = size := by
  unfold iterated
  generalize iterations - 1 = count
  induction count with
  | zero => exact h message
  | succ count _ => exact h _

theorem length_pbkdf1 {hash : Bytes → Bytes} {size : Nat} (h : ∀ m, (hash m).length = size)
    (hsize : 16 ≤ size) (password salt : Bytes) (iterations : Nat) :
    (pbkdf1 hash password salt iterations).length = 16 := by
  unfold pbkdf1
  rw [List.length_take, length_iterated h]
  omega

theorem length_outputBlocks (diversifier : Bytes) (iterations count : Nat) (input : Bytes) :
    (outputBlocks diversifier iterations count input).length = digestSize * count := by
  induction count generalizing input with
  | zero => rfl
  | succ count ih =>
      have houtput := length_iterated Digest.length_sha1 iterations (diversifier ++ input)
      simp only [outputBlocks, List.length_append, houtput, ih, digestSize]
      omega

@[simp] theorem length_pkcs12 (id : UInt8) (password salt : Bytes)
    (iterations size : Nat) : (pkcs12 id password salt iterations size).length = size := by
  unfold pkcs12
  dsimp only
  rw [List.length_take, length_outputBlocks]
  unfold digestSize
  omega

/-- The first eight octets and the next eight of a derived key. -/
theorem length_halves {octets : Bytes} (h : octets.length = 16) :
    (octets.take 8).length = 8 ∧ ((octets.drop 8).take 8).length = 8 := by
  constructor
  · rw [List.length_take]
    omega
  · rw [List.length_take, List.length_drop]
    omega

/-- What a scheme derives fits its cipher. -/
theorem Scheme.lengths_of_derive? {scheme : Scheme} {password salt key vector : Bytes}
    {iterations : Nat} (h : scheme.derive? password salt iterations = some (key, vector)) :
    key.length = scheme.cipher.keyLength ∧ vector.length = scheme.cipher.blockSize := by
  cases scheme with
  | md5Des =>
      cases h
      exact length_halves (length_pbkdf1 Digest.length_md5 (by decide) _ _ _)
  | sha1Des =>
      cases h
      exact length_halves (length_pbkdf1 Digest.length_sha1 (by decide) _ _ _)
  | sha1TripleDes =>
      obtain ⟨encoded, -, he⟩ := Option.map_eq_some_iff.1 h
      cases he
      exact ⟨length_pkcs12 .., length_pkcs12 ..⟩
  | sha1TwoKeyTripleDes =>
      obtain ⟨encoded, -, he⟩ := Option.map_eq_some_iff.1 h
      cases he
      exact ⟨length_pkcs12 .., length_pkcs12 ..⟩

/-- The schemes of PKCS#12, which encode the password before they derive a key. -/
def Scheme.ofPkcs12 : List Scheme := [.sha1TripleDes, .sha1TwoKeyTripleDes]

/-- A derivation fails for PKCS#12 and a password that is not UTF-8, and in no other case. -/
theorem Scheme.derive?_eq_none_iff (scheme : Scheme) (password salt : Bytes) (iterations : Nat) :
    scheme.derive? password salt iterations = none ↔
      scheme ∈ ofPkcs12 ∧ Text.Utf8.decode? password = none := by
  cases scheme <;> simp [derive?, bmpPassword?, ofPkcs12]

/-- Every other derivation has a result. -/
theorem Scheme.exists_derive?_iff (scheme : Scheme) (password salt : Bytes) (iterations : Nat) :
    (∃ derived, scheme.derive? password salt iterations = some derived) ↔
      (scheme ∈ ofPkcs12 → ∃ text, Text.Utf8.decode? password = some text) := by
  rw [← Option.ne_none_iff_exists', ← Option.ne_none_iff_exists', Ne, derive?_eq_none_iff, not_and]

end Pbe

end Credential.Key
