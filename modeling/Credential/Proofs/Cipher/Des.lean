import Credential.Cipher.Des
import Credential.Proofs.Bytes

/-!
# DES and triple DES decipher what they enciphered

`transform_reverse_transform`: the rounds under the round keys in reverse order undo the rounds, for
every list of round keys. A round exchanges the halves and combines one with a function of the
other, so the same round on exchanged halves takes it back (`rounds_reverse_swap`); the permutations
around the rounds are inverse to each other, which their tables decide.
-/

namespace Credential.Cipher.Des

/-! ## Bits and octets -/

@[simp] theorem length_bitsOf (bs : Bytes) : (bitsOf bs).length = 8 * bs.length := by
  induction bs with
  | nil => rfl
  | cons b bs ih =>
      have hcons : bitsOf (b :: bs) = octetBits b ++ bitsOf bs := List.flatMap_cons
      have hb : (octetBits b).length = 8 := rfl
      rw [hcons, List.length_append, ih, hb, List.length_cons]
      omega

theorem ofNat_value_octetBits (b : UInt8) : UInt8.ofNat (value (octetBits b)) = b := by
  have htable : ∀ n < 256, UInt8.ofNat (value (octetBits (UInt8.ofNat n))) = UInt8.ofNat n := by
    decide +kernel
  have h := htable b.toNat b.toNat_lt
  rwa [UInt8.ofNat_toNat] at h

theorem octetBits_ofNat_value : ∀ a b c d e f g h : Bool,
    octetBits (UInt8.ofNat (value [a, b, c, d, e, f, g, h])) = [a, b, c, d, e, f, g, h] := by
  decide +kernel

@[simp] theorem octetsOf_bitsOf (bs : Bytes) : octetsOf (bitsOf bs) = bs := by
  induction bs with
  | nil => rfl
  | cons b bs ih =>
      have hcons : octetsOf (bitsOf (b :: bs)) =
          UInt8.ofNat (value (octetBits b)) :: octetsOf (bitsOf bs) := rfl
      rw [hcons, ofNat_value_octetBits, ih]

/-- Bits that make up whole octets are those of their octets. -/
theorem bitsOf_octetsOf {bits : List Bool} (hbits : bits.length % 8 = 0) :
    bitsOf (octetsOf bits) = bits := by
  induction bits using octetsOf.induct with
  | case1 a b c d e f g h rest ih =>
      have hrest : rest.length % 8 = 0 := by
        simp only [List.length_cons] at hbits
        omega
      have hcons : bitsOf (octetsOf (a :: b :: c :: d :: e :: f :: g :: h :: rest)) =
          octetBits (UInt8.ofNat (value [a, b, c, d, e, f, g, h])) ++ bitsOf (octetsOf rest) :=
        List.flatMap_cons
      rw [hcons, octetBits_ofNat_value, ih hrest]
      rfl
  | case2 bits hshort =>
      -- fewer than eight bits that are whole octets are none
      match bits, hshort, hbits with
      | [], _, _ => rfl
      | a :: b :: c :: d :: e :: f :: g :: h :: rest, hshort, _ =>
          exact absurd rfl (hshort a b c d e f g h rest)

/-! ## Choices of bits -/

@[simp] theorem length_select (places : List Nat) (bits : List Bool) :
    (select places bits).length = places.length :=
  List.length_map _

/-- A choice among chosen bits is a choice among the bits. -/
theorem select_select (outer inner : List Nat) (bits : List Bool)
    (h : ∀ place ∈ outer, place - 1 < inner.length) :
    select outer (select inner bits) =
      select (outer.map fun place => inner.getD (place - 1) 0) bits := by
  unfold select
  rw [List.map_map]
  apply List.map_congr_left
  intro place hplace
  have hlt := h place hplace
  simp [hlt]

/-- All places in order choose the bits as they are. -/
theorem select_range' {bits : List Bool} {count : Nat} (h : bits.length = count) :
    select (List.range' 1 count) bits = bits := by
  apply List.ext_getElem
  · rw [length_select, List.length_range', h]
  · intro i hi hbits
    simp [select, hbits]

theorem select_finalPermutation_initialPermutation {bits : List Bool} (h : bits.length = 64) :
    select finalPermutation (select initialPermutation bits) = bits := by
  have hplaces : ∀ place ∈ finalPermutation, place - 1 < initialPermutation.length := by
    decide
  have hinverse : (finalPermutation.map fun place => initialPermutation.getD (place - 1) 0) =
      List.range' 1 64 := by
    decide
  rw [select_select _ _ _ hplaces, hinverse, select_range' h]

theorem select_initialPermutation_finalPermutation {bits : List Bool} (h : bits.length = 64) :
    select initialPermutation (select finalPermutation bits) = bits := by
  have hplaces : ∀ place ∈ initialPermutation, place - 1 < finalPermutation.length := by
    decide
  have hinverse : (initialPermutation.map fun place => finalPermutation.getD (place - 1) 0) =
      List.range' 1 64 := by
    decide
  rw [select_select _ _ _ hplaces, hinverse, select_range' h]

/-! ## Rounds -/

/-- Bits combined with the same bits twice. -/
theorem xor_xor_cancel {xs ys : List Bool} (h : xs.length = ys.length) :
    xor (xor xs ys) ys = xs := by
  apply Bytes.zipWith_cancel _ (Nat.le_of_eq h)
  intro x y
  cases x <;> cases y <;> rfl

@[simp] theorem length_mix (half key : List Bool) : (mix half key).length = 32 :=
  length_select _ _

/-- The two halves of a block. -/
def Halves (halves : List Bool × List Bool) : Prop :=
  halves.1.length = 32 ∧ halves.2.length = 32

/-- One round keeps the size of the halves. -/
theorem halves_round {left right : List Bool} (h : Halves (left, right)) (key : List Bool) :
    Halves (right, xor left (mix right key)) := by
  obtain ⟨hleft, hright⟩ := h
  refine ⟨hright, ?_⟩
  have hlength : (xor left (mix right key)).length = min left.length (mix right key).length :=
    List.length_zipWith
  dsimp only at hleft
  rw [hlength, length_mix, hleft]
  rfl

theorem halves_rounds (keys : List (List Bool)) {halves : List Bool × List Bool}
    (h : Halves halves) : Halves (rounds keys halves) := by
  induction keys generalizing halves with
  | nil => exact h
  | cons key keys ih => exact ih (halves_round h key)

theorem rounds_append (keys others : List (List Bool)) (halves : List Bool × List Bool) :
    rounds (keys ++ others) halves = rounds others (rounds keys halves) := by
  induction keys generalizing halves with
  | nil => rfl
  | cons key keys ih => exact ih _

/-- The rounds in reverse order, on exchanged halves, lead back to the exchanged halves. -/
theorem rounds_reverse_swap (keys : List (List Bool)) {halves : List Bool × List Bool}
    (h : Halves halves) : rounds keys.reverse (rounds keys halves).swap = halves.swap := by
  -- the first round forth is the last one back
  induction keys generalizing halves with
  | nil => rfl
  | cons key keys ih =>
      obtain ⟨left, right⟩ := halves
      have hlater : rounds keys.reverse (rounds keys (right, xor left (mix right key))).swap =
          (xor left (mix right key), right) := ih (halves_round h key)
      have hcancel : xor (xor left (mix right key)) (mix right key) = left := by
        apply xor_xor_cancel
        rw [length_mix]
        exact h.1
      calc rounds (key :: keys).reverse (rounds (key :: keys) (left, right)).swap
          = rounds [key] (rounds keys.reverse
              (rounds keys (right, xor left (mix right key))).swap) := by
            rw [List.reverse_cons, rounds_append]
            rfl
        _ = rounds [key] (xor left (mix right key), right) := by rw [hlater]
        _ = (right, xor (xor left (mix right key)) (mix right key)) := rfl
        _ = (left, right).swap := by rw [hcancel]; rfl

/-! ## Blocks -/

/-- The halves of a block. -/
def halved (bits : List Bool) : List Bool × List Bool := (bits.take 32, bits.drop 32)

/-- The block of two halves after the rounds, which leave them exchanged. -/
def joined (halves : List Bool × List Bool) : List Bool := halves.2 ++ halves.1

theorem transform_eq (keys : List (List Bool)) (block : Bytes) :
    transform keys block =
      octetsOf (select finalPermutation
        (joined (rounds keys (halved (select initialPermutation (bitsOf block)))))) := rfl

theorem halves_halved {bits : List Bool} (h : bits.length = 64) : Halves (halved bits) := by
  constructor
  · simp [halved, h]
  · simp [halved, h]

theorem halved_joined {halves : List Bool × List Bool} (h : Halves halves) :
    halved (joined halves) = halves.swap := by
  have htake : (halves.2 ++ halves.1).take 32 = halves.2 := List.take_left' h.2
  have hdrop : (halves.2 ++ halves.1).drop 32 = halves.1 := List.drop_left' h.2
  calc halved (joined halves)
      = ((halves.2 ++ halves.1).take 32, (halves.2 ++ halves.1).drop 32) := rfl
    _ = halves.swap := by rw [htake, hdrop]; rfl

@[simp] theorem joined_swap_halved (bits : List Bool) : joined (halved bits).swap = bits :=
  List.take_append_drop 32 bits

theorem length_joined {halves : List Bool × List Bool} (h : Halves halves) :
    (joined halves).length = 64 := by
  unfold joined
  rw [List.length_append, h.1, h.2]

theorem transform_reverse_transform (keys : List (List Bool)) {block : Bytes}
    (h : block.length = 8) : transform keys.reverse (transform keys block) = block := by
  have hbits : (bitsOf block).length = 64 := by
    rw [length_bitsOf, h]
  generalize hpermuted : select initialPermutation (bitsOf block) = permuted
  have hhalves : Halves (halved permuted) := by
    rw [← hpermuted]
    exact halves_halved (length_select _ _)
  have hmixed := halves_rounds keys hhalves
  -- the final permutation of the first run meets the initial one of the second
  have hmeet : select initialPermutation (bitsOf (transform keys block)) =
      joined (rounds keys (halved permuted)) := by
    rw [transform_eq, hpermuted, bitsOf_octetsOf (by rw [length_select]; rfl),
      select_initialPermutation_finalPermutation (length_joined hmixed)]
  calc transform keys.reverse (transform keys block)
      = octetsOf (select finalPermutation
          (joined (rounds keys.reverse (rounds keys (halved permuted)).swap))) := by
        rw [transform_eq, hmeet, halved_joined hmixed]
    _ = octetsOf (select finalPermutation permuted) := by
        rw [rounds_reverse_swap keys hhalves, joined_swap_halved]
    _ = block := by
        rw [← hpermuted, select_finalPermutation_initialPermutation hbits, octetsOf_bitsOf]

theorem transform_transform_reverse (keys : List (List Bool)) {block : Bytes}
    (h : block.length = 8) : transform keys (transform keys.reverse block) = block := by
  have hreverse := transform_reverse_transform keys.reverse h
  rwa [List.reverse_reverse] at hreverse

@[simp] theorem length_cipher_encrypt (key block : Bytes) :
    ((cipher key).encrypt block).length = 8 := rfl

@[simp] theorem length_cipher_decrypt (key block : Bytes) :
    ((cipher key).decrypt block).length = 8 := rfl

theorem cipher_decrypt_encrypt (key : Bytes) {block : Bytes} (h : block.length = 8) :
    (cipher key).decrypt ((cipher key).encrypt block) = block :=
  transform_reverse_transform (roundKeys key) h

theorem cipher_encrypt_decrypt (key : Bytes) {block : Bytes} (h : block.length = 8) :
    (cipher key).encrypt ((cipher key).decrypt block) = block :=
  transform_transform_reverse (roundKeys key) h

@[simp] theorem length_tripleCipher_encrypt (first second third block : Bytes) :
    ((tripleCipher first second third).encrypt block).length = 8 := by
  unfold tripleCipher
  dsimp only
  rw [length_cipher_encrypt]

theorem tripleCipher_decrypt_encrypt (first second third : Bytes) {block : Bytes}
    (h : block.length = 8) :
    (tripleCipher first second third).decrypt ((tripleCipher first second third).encrypt block) =
      block := by
  unfold tripleCipher
  dsimp only
  rw [cipher_decrypt_encrypt third (length_cipher_decrypt second _),
    cipher_encrypt_decrypt second (length_cipher_encrypt first _), cipher_decrypt_encrypt first h]

end Credential.Cipher.Des
