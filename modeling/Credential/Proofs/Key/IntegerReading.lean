import Credential.Key.Specification
import Credential.Proofs.Der.Reading
import Credential.Proofs.Der.Writer

/-!
# The readers of integers agree

`readUnsigned` keeps the octets of an INTEGER and `readNat` gives its number. They read the same
inputs, leave the same octets and fail for the same reasons (`readNat_eq_map_readUnsigned`), and the
octets stay those of the number when the zeros in front are taken away, which is how the private
exponent of a key is kept (`toNat_dropWhile_zero`). `readNat64` asks in addition that the number
fits 64 bits, and only of the number: zeros in front do not count.

The content of a written INTEGER is the shortest one for its number (`natContent_isShortest`), which
has a zero octet in front if the next octet has its high bit set or there is none
(`natContent_eq_signed`).
-/

namespace Credential.Der

/-! ## Zeros in front -/

@[simp] theorem toNat_dropWhile_zero (bs : Bytes) :
    Bytes.toNat (bs.dropWhile (· == 0)) = Bytes.toNat bs := by
  rw [Bytes.dropWhile_zero, Bytes.toNat_bigEndian_of_lt (lt_pow_byteLength _)]

/-- No zero is left in front. -/
theorem head?_dropWhile_zero (bs : Bytes) : (bs.dropWhile (· == 0)).head? ≠ some 0 := by
  intro hzero
  have hhead := List.head?_dropWhile_not (· == (0 : UInt8)) bs
  rw [hzero] at hhead
  simp at hhead

/-! ## Three readers -/

variable {input rest : Bytes}

/-- Only the number decides whether it fits 64 bits. -/
theorem readNat64_eq {n : Nat} (h : readNat input = .ok (n, rest)) :
    readNat64 input = if n < 2 ^ 64 then .ok (n, rest) else .error .integerOutOfRange := by
  unfold readNat64
  rw [h]
  rfl

theorem readNat64_of_error {e : Error} (h : readNat input = .error e) :
    readNat64 input = .error e := by
  unfold readNat64
  rw [h]
  rfl

/-! ## The shortest content -/

/-- Octets of a number with a zero in front where the first one would read as a sign. -/
def signed : Bytes → Bytes
  | [] => [0]
  | b :: bs => if b ≥ 0x80 then 0 :: b :: bs else b :: bs

/-- Contents that are read as a number and have no more octets than any other one for it. -/
structure IsShortestFor (n : Nat) (content : Bytes) : Prop where
  isUnsigned : IsUnsigned content
  toNat_eq : Bytes.toNat content = n
  length_le : ∀ other, IsUnsigned other → Bytes.toNat other = n → content.length ≤ other.length

theorem length_signed_le_succ (octets : Bytes) : (signed octets).length ≤ octets.length + 1 := by
  cases octets with
  | nil => simp [signed]
  | cons b bs =>
      simp only [signed]
      split <;> simp

/-- Zeros in front of a content can be taken away, but for one where a sign would be read. -/
theorem length_signed_le {content : Bytes} (h : IsUnsigned content) :
    (signed (content.dropWhile (· == 0))).length ≤ content.length := by
  obtain ⟨b, bs, rfl, hb⟩ := h
  by_cases hzero : b = 0
  · -- the zero in front makes up for the one that may have to be added
    have hshort : (bs.dropWhile (· == 0)).length ≤ bs.length :=
      (List.dropWhile_suffix _).sublist.length_le
    have hsigned := length_signed_le_succ (bs.dropWhile (· == 0))
    rw [List.dropWhile_cons_of_pos (by simp [hzero]), List.length_cons]
    omega
  · have hkept : (b :: bs).dropWhile (· == 0) = b :: bs :=
      List.dropWhile_cons_of_neg (by simp [hzero])
    simp [hkept, signed, not_high_of_lt hb]

/-- A number that takes all bits of its octets has the high bit of the first one. -/
theorem high_of_bitLength {n : Nat} {b : UInt8} {bs : Bytes} (hvalue : Bytes.toNat (b :: bs) = n)
    (hbits : bitLength n = 8 * (bs.length + 1)) : b ≥ 0x80 := by
  apply UInt8.le_iff_toNat_le.2
  apply Nat.le_of_not_lt
  intro hlow
  have hlt : b.toNat < 128 := hlow
  have htail := Bytes.toNat_lt_pow bs
  have hsmall : n < 256 ^ bs.length * 128 := by
    rw [Bytes.toNat_cons] at hvalue
    have hmul := Nat.mul_le_mul_right (256 ^ bs.length) hlt
    rw [Nat.succ_mul] at hmul
    omega
  have hfew := bitLength_le_add_seven_iff.2 hsmall
  omega

/-- A written content has a zero octet in front if the next one has its high bit set or there is
none, and otherwise begins with the first octet of the number. -/
theorem natContent_eq_signed (n : Nat) :
    natContent n = signed (Bytes.bigEndian (byteLength n) n) := by
  have hle : byteLength n ≤ bitLength n / 8 + 1 := by
    unfold byteLength
    omega
  have hcontent : natContent n =
      List.replicate (bitLength n / 8 + 1 - byteLength n) 0 ++ Bytes.bigEndian (byteLength n) n :=
    Bytes.bigEndian_eq_padded hle
  have hlength : (Bytes.bigEndian (byteLength n) n).length = byteLength n :=
    Bytes.length_bigEndian _ _
  have hvalue : Bytes.toNat (Bytes.bigEndian (byteLength n) n) = n :=
    Bytes.toNat_bigEndian_of_lt (lt_pow_byteLength n)
  obtain ⟨first, others, hfirst, hsign⟩ := isUnsigned_natContent n
  by_cases hfull : bitLength n % 8 = 0
  · -- all bits of the octets are taken, so one octet is added
    have hone : bitLength n / 8 + 1 - byteLength n = 1 := by
      unfold byteLength
      omega
    rw [hcontent, hone]
    cases hoctets : Bytes.bigEndian (byteLength n) n with
    | nil => rfl
    | cons b bs =>
        rw [hoctets] at hvalue hlength
        have hbits : bitLength n = 8 * (bs.length + 1) := by
          rw [List.length_cons] at hlength
          unfold byteLength at hlength
          omega
        rw [signed, if_pos (high_of_bitLength hvalue hbits)]
        rfl
  · have hnone : bitLength n / 8 + 1 - byteLength n = 0 := by
      unfold byteLength
      omega
    rw [hnone, List.replicate_zero, List.nil_append] at hcontent
    rw [← hcontent, hfirst, signed, if_neg (not_high_of_lt hsign)]

theorem natContent_isShortest (n : Nat) : IsShortestFor n (natContent n) := by
  refine ⟨isUnsigned_natContent n, toNat_natContent n, fun other hother hvalue => ?_⟩
  have hkept := Bytes.dropWhile_zero other
  rw [hvalue] at hkept
  rw [natContent_eq_signed, ← hkept]
  exact length_signed_le hother

/-! ## Agreement -/

/-- The reader of numbers and the reader of octets read the same inputs, leave the same octets and
fail for the same reasons, and the number is that of the octets, also of those that a key keeps,
which have no zero in front. Of a number that was read, only its size decides whether it fits 64
bits, so zeros in front of it make no difference. A number that is written in the shortest content,
with a zero octet where its first octet would read as a sign, is read as that number, and what
follows is left. -/
theorem integer_readers_agree :
    (∀ input, readNat input = (readUnsigned input).map fun read => (Bytes.toNat read.1, read.2)) ∧
    (∀ (modulus publicExponent : Nat) (content : Bytes),
      let kept := (Key.RsaParameters.ofOctets modulus publicExponent content).privateExponent
      Bytes.toNat kept = Bytes.toNat content ∧ kept.head? ≠ some 0) ∧
    (∀ input e, readNat input = .error e → readNat64 input = .error e) ∧
    (∀ input n rest, readNat input = .ok (n, rest) →
      readNat64 input = if n < 2 ^ 64 then .ok (n, rest) else .error .integerOutOfRange) ∧
    (∀ (number : PaddedNat) (rest : Bytes), Fits number.octets →
      readUnsigned (number.encode ++ rest) = .ok (number.octets, rest) ∧
      readNat (number.encode ++ rest) = .ok (number.value, rest) ∧
      readNat64 (number.encode ++ rest) =
        if number.value < 2 ^ 64 then .ok (number.value, rest) else .error .integerOutOfRange) ∧
    ∀ n, natContent n = signed (Bytes.bigEndian (byteLength n) n) ∧ IsShortestFor n (natContent n) ∧
      ∀ rest, Fits (natContent n) → readNat (encodeNat n ++ rest) = .ok (n, rest) := by
  refine ⟨readNat_eq_map_readUnsigned,
    fun _ _ content => ⟨toNat_dropWhile_zero content, head?_dropWhile_zero content⟩,
    fun input e => readNat64_of_error, fun input n rest => readNat64_eq, fun number rest h => ?_,
    fun n => ⟨natContent_eq_signed n, natContent_isShortest n,
      fun rest h => readNat_encodeNat h rest⟩⟩
  have hread := PaddedNat.readNat_encode h rest
  exact ⟨PaddedNat.readUnsigned_encode h rest, hread, readNat64_eq hread⟩

/-- The largest number of 64 bits behind two zeros more than it needs, an INTEGER without content,
and the number 128, whose octet has the high bit. -/
theorem integer_readers_agree_largest :
    (Fits (PaddedNat.octets ⟨2 ^ 64 - 1, 2⟩) ∧
      readNat64 (PaddedNat.encode ⟨2 ^ 64 - 1, 2⟩ ++ [5, 0]) = .ok (2 ^ 64 - 1, [5, 0])) ∧
    (readNat [2, 0] = .error .integerEmpty ∧ readNat64 [2, 0] = .error .integerEmpty) ∧
    (readNat [2, 2, 0, 128, 7] = .ok (128, [7]) ∧ readNat64 [2, 2, 0, 128, 7] = .ok (128, [7])) ∧
    Fits (natContent 128) ∧ readNat (encodeNat 128 ++ [7]) = .ok (128, [7]) := by
  obtain ⟨-, -, herror, hnumber, hpadded, hwritten⟩ := integer_readers_agree
  have hfits : Fits (PaddedNat.octets ⟨2 ^ 64 - 1, 2⟩) := by
    unfold Fits
    decide +kernel
  have hread : readNat [2, 2, 0, 128, 7] = .ok (128, [7]) := rfl
  have hfitsByte : Fits (natContent 128) := fits_natContent (by decide)
  exact ⟨⟨hfits, (hpadded _ [5, 0] hfits).2.2⟩, ⟨rfl, herror [2, 0] _ rfl⟩,
    ⟨hread, hnumber _ _ _ hread⟩, hfitsByte, (hwritten 128).2.2 [7] hfitsByte⟩

end Credential.Der
