import Credential.Der.Writer
import Credential.Proofs.Bytes

/-!
# Reading what was written

Every reader of an element gives back what the writer was given, with what follows left unread, as
long as the content fits a length of 32 bits (`Fits`): `readValue_encode` for the content of a known
tag, `readElement_encode` for the element as it is, `readNat_encodeNat` for numbers and
`readObjectIdentifier_encode` for identifiers. Longer contents have a length field of more than four
octets, which the reader refuses.
-/

namespace Credential.Der

/-- A content whose length fits 32 bits. -/
def Fits (content : Bytes) : Prop :=
  content.length < Text.Decimal.bound32

/-! ## Lengths -/

/-- The lengths that are written in four octets at most. -/
theorem byteLength_le_four_iff {n : Nat} : byteLength n ≤ 4 ↔ n < Text.Decimal.bound32 :=
  byteLength_le_iff

/-- The octets that are there are taken. -/
@[simp] theorem take_append (xs rest : Bytes) : take xs.length (xs ++ rest) = .ok (xs, rest) := by
  unfold take
  rw [if_neg (by simp), List.take_left, List.drop_left]

theorem readLength_of_lt {b : UInt8} (h : b < 0x80) (rest : Bytes) :
    readLength (b :: rest) = .ok (b.toNat, rest) :=
  if_pos h

/-- A length of one to four octets of its own. -/
theorem readLength_of_digits {digits : Bytes} (hpos : 0 < digits.length) (hle : digits.length ≤ 4)
    (rest : Bytes) :
    readLength (UInt8.ofNat (0x80 + digits.length) :: (digits ++ rest)) =
      .ok (Bytes.toNat digits, rest) := by
  have hoctet : (UInt8.ofNat (0x80 + digits.length)).toNat = 0x80 + digits.length := by
    rw [UInt8.toNat_ofNat']
    omega
  have hlong : ¬ UInt8.ofNat (0x80 + digits.length) < 0x80 := by
    rw [UInt8.lt_iff_toNat_lt, hoctet]
    simp
  unfold readLength
  dsimp only
  rw [if_neg hlong, hoctet, Nat.add_sub_cancel_left, if_neg (by omega), if_neg (by omega),
    take_append]
  rfl

theorem readLength_lengthOctets {n : Nat} (h : n < Text.Decimal.bound32) (rest : Bytes) :
    readLength (lengthOctets n ++ rest) = .ok (n, rest) := by
  unfold lengthOctets
  by_cases hshort : n < 0x80
  · have hoctet : (UInt8.ofNat n).toNat = n := by
      rw [UInt8.toNat_ofNat']
      omega
    have hlt : UInt8.ofNat n < 0x80 := by
      rw [UInt8.lt_iff_toNat_lt, hoctet]
      exact hshort
    rw [if_pos hshort, List.singleton_append, readLength_of_lt hlt, hoctet]
  · have hle : byteLength n ≤ 4 := byteLength_le_four_iff.2 h
    have hpos : 0 < byteLength n := byteLength_pos (by omega)
    have hlength : (Bytes.bigEndian (byteLength n) n).length = byteLength n :=
      Bytes.length_bigEndian _ _
    have hread := readLength_of_digits (by rwa [hlength]) (by rwa [hlength]) rest
    rw [hlength] at hread
    rw [if_neg hshort, List.cons_append, hread,
      Bytes.toNat_bigEndian_of_lt (lt_pow_byteLength n)]

/-! ## Elements -/

variable {tag : Tag} {content : Bytes}

theorem encode_append (tag : Tag) (content rest : Bytes) :
    encode tag content ++ rest =
      tag.octet :: (lengthOctets content.length ++ (content ++ rest)) := by
  unfold encode element
  rw [List.cons_append, List.append_assoc]

theorem readValue_encode (htag : Tag.ofOctet tag.octet = tag) (h : Fits content) (rest : Bytes) :
    readValue tag (encode tag content ++ rest) = .ok (content, rest) := by
  rw [encode_append]
  unfold readValue readHeader readTag
  dsimp only [bind, Except.bind]
  rw [htag, if_pos rfl, readLength_lengthOctets h]
  exact take_append content rest

theorem readAny_encode (htag : Tag.ofOctet tag.octet = tag) (h : Fits content) (rest : Bytes) :
    readAny (encode tag content ++ rest) = .ok ((tag, content), rest) := by
  rw [encode_append]
  unfold readAny readTag
  dsimp only [bind, Except.bind]
  rw [htag, readLength_lengthOctets h]
  dsimp only
  rw [take_append]
  rfl

theorem readElement_encode (htag : Tag.ofOctet tag.octet = tag) (h : Fits content) (rest : Bytes) :
    readElement (encode tag content ++ rest) = .ok (encode tag content, rest) := by
  have hlength :
      (encode tag content ++ rest).length - rest.length = (encode tag content).length := by
    rw [List.length_append, Nat.add_sub_cancel]
  unfold readElement
  rw [readAny_encode htag h]
  dsimp only [bind, Except.bind]
  rw [hlength, List.take_left]
  rfl

/-- The content of an element that stands alone. -/
theorem sequenceContent_encode (h : Fits content) :
    sequenceContent (encode .sequence content) = .ok content := by
  have hread : readValue .sequence (encode .sequence content ++ []) = .ok (content, []) :=
    readValue_encode rfl h []
  rw [List.append_nil] at hread
  unfold sequenceContent readSequence
  rw [hread]
  rfl

theorem readOctetString_encode (h : Fits content) (rest : Bytes) :
    readOctetString (encode .octetString content ++ rest) = .ok (content, rest) :=
  readValue_encode rfl h rest

theorem readObjectIdentifier_encode {oid : ObjectIdentifier} (h : Fits content)
    (hoid : ObjectIdentifier.ofContent content = .ok oid) (rest : Bytes) :
    readObjectIdentifier (encode .objectIdentifier content ++ rest) = .ok (oid, rest) := by
  unfold readObjectIdentifier
  rw [readValue_encode rfl h]
  dsimp only [bind, Except.bind]
  rw [hoid]
  rfl

/-! ## Numbers -/

/-- Content octets of a number that is not negative: there are some, and the first has no high
bit. -/
def IsUnsigned (content : Bytes) : Prop :=
  ∃ b bs, content = b :: bs ∧ b.toNat < 128

/-- The octets of a number, of which the first has no high bit. -/
theorem isUnsigned_natContent (n : Nat) : IsUnsigned (natContent n) := by
  have hlength : (natContent n).length = bitLength n / 8 + 1 := Bytes.length_bigEndian _ _
  obtain ⟨b, bs, hcontent⟩ := List.exists_cons_of_ne_nil (List.ne_nil_of_length_eq_add_one hlength)
  refine ⟨b, bs, hcontent, ?_⟩
  have hrest : bs.length = bitLength n / 8 := by
    rw [hcontent] at hlength
    exact Nat.succ.inj hlength
  have hvalue : Bytes.toNat (b :: bs) ≤ n := by
    rw [← hcontent]
    unfold natContent
    rw [Bytes.toNat_bigEndian]
    exact Nat.mod_le _ _
  rw [Bytes.toNat_cons] at hvalue
  -- `n` has at most seven binary digits more than the octets after the first one
  have hbound : n < 256 ^ bs.length * 128 := bitLength_le_add_seven_iff.1 (by omega)
  rw [Nat.mul_comm] at hbound
  apply Nat.lt_of_mul_lt_mul_right (a := 256 ^ bs.length)
  omega

theorem toNat_natContent (n : Nat) : Bytes.toNat (natContent n) = n := by
  have hwidth : byteLength n ≤ bitLength n / 8 + 1 := by
    unfold byteLength
    omega
  exact Bytes.toNat_bigEndian_of_lt (byteLength_le_iff.1 hwidth)

/-- An octet without the high bit. -/
theorem not_high_of_lt {b : UInt8} (h : b.toNat < 128) : ¬ b ≥ 0x80 := by
  intro hge
  have hle : 128 ≤ b.toNat := UInt8.le_iff_toNat_le.1 hge
  omega

/-- The number is that of the octets, and in all else the two readers are the same. -/
theorem readNat_eq_map_readUnsigned (input : Bytes) :
    readNat input = (readUnsigned input).map fun read => (Bytes.toNat read.1, read.2) := by
  unfold readNat readUnsigned
  cases readValue .integer input with
  | error e => rfl
  | ok read =>
      obtain ⟨content, rest⟩ := read
      cases content with
      | nil => rfl
      | cons b bs =>
          simp only [bind, Except.bind]
          split <;> rfl

theorem readUnsigned_encode (hsign : IsUnsigned content) (h : Fits content) (rest : Bytes) :
    readUnsigned (encode .integer content ++ rest) = .ok (content, rest) := by
  obtain ⟨b, bs, rfl, hb⟩ := hsign
  unfold readUnsigned
  rw [readValue_encode rfl h]
  dsimp only [bind, Except.bind]
  rw [if_neg (not_high_of_lt hb)]
  rfl

theorem readNat_encode (hsign : IsUnsigned content) (h : Fits content) (rest : Bytes) :
    readNat (encode .integer content ++ rest) = .ok (Bytes.toNat content, rest) := by
  rw [readNat_eq_map_readUnsigned, readUnsigned_encode hsign h]
  rfl

theorem readNat_encodeNat {n : Nat} (h : Fits (natContent n)) (rest : Bytes) :
    readNat (encodeNat n ++ rest) = .ok (n, rest) := by
  have hread := readNat_encode (isUnsigned_natContent n) h rest
  rwa [toNat_natContent] at hread

theorem readNat64_of_readNat {input rest : Bytes} {n : Nat} (h : readNat input = .ok (n, rest))
    (hn : n < Text.Decimal.bound64) : readNat64 input = .ok (n, rest) := by
  unfold readNat64
  rw [h]
  dsimp only [bind, Except.bind]
  rw [if_pos hn]
  rfl

/-- A number of at most 64 binary digits always fits. -/
theorem fits_natContent {n : Nat} (h : n < Text.Decimal.bound64) : Fits (natContent n) := by
  have hbits : bitLength n ≤ 64 := bitLength_le_iff.2 h
  have hlength : (natContent n).length = bitLength n / 8 + 1 := Bytes.length_bigEndian _ _
  unfold Fits Text.Decimal.bound32
  omega

theorem readNat64_encodeNat {n : Nat} (h : n < Text.Decimal.bound64) (rest : Bytes) :
    readNat64 (encodeNat n ++ rest) = .ok (n, rest) :=
  readNat64_of_readNat (readNat_encodeNat (fits_natContent h) rest) h

/-! ## Numbers with leading zeros -/

/-- A natural number and the number of zero octets in front of its shortest content. -/
structure PaddedNat where
  value : Nat
  zeros : Nat
  deriving DecidableEq, Repr

namespace PaddedNat

/-- The content octets. -/
def octets (number : PaddedNat) : Bytes :=
  List.replicate number.zeros 0 ++ natContent number.value

/-- The INTEGER. -/
def encode (number : PaddedNat) : Bytes :=
  Der.encode .integer number.octets

theorem isUnsigned_octets (number : PaddedNat) : IsUnsigned number.octets := by
  obtain ⟨value, zeros⟩ := number
  cases zeros with
  | zero => exact isUnsigned_natContent value
  | succ zeros => exact ⟨0, List.replicate zeros 0 ++ natContent value, rfl, by decide⟩

@[simp] theorem toNat_octets (number : PaddedNat) : Bytes.toNat number.octets = number.value := by
  obtain ⟨value, zeros⟩ := number
  induction zeros with
  | zero => exact toNat_natContent value
  | succ zeros ih =>
      calc Bytes.toNat (octets ⟨value, zeros + 1⟩)
          = Bytes.toNat (0 :: octets ⟨value, zeros⟩) := rfl
        _ = Bytes.toNat (octets ⟨value, zeros⟩) := by
            rw [Bytes.toNat_cons, UInt8.toNat_zero, Nat.zero_mul, Nat.zero_add]
        _ = value := ih

theorem readNat_encode {number : PaddedNat} (h : Fits number.octets) (rest : Bytes) :
    readNat (number.encode ++ rest) = .ok (number.value, rest) := by
  have hread := Der.readNat_encode number.isUnsigned_octets h rest
  rwa [toNat_octets] at hread

theorem readNat64_encode {number : PaddedNat} (h : Fits number.octets)
    (hvalue : number.value < Text.Decimal.bound64) (rest : Bytes) :
    readNat64 (number.encode ++ rest) = .ok (number.value, rest) :=
  readNat64_of_readNat (readNat_encode h rest) hvalue

theorem readUnsigned_encode {number : PaddedNat} (h : Fits number.octets) (rest : Bytes) :
    readUnsigned (number.encode ++ rest) = .ok (number.octets, rest) :=
  Der.readUnsigned_encode number.isUnsigned_octets h rest

end PaddedNat

end Credential.Der
