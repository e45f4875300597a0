import Credential.Proofs.Der.Reading
import Credential.Proofs.Der.Writer

/-!
# The frame of an element

An element is an identifier octet, a length field and the content. `LengthField` says which octets
denote a length, and the reader accepts exactly these (`readLength_eq_ok_iff`, `readAny_eq_ok_iff`).
From the frame follow the two laws of a byte string that is one SEQUENCE: it ends too early as soon
as its last octets are missing (`sequenceContent_truncated`), and octets after it are counted as
trailing data (`sequenceContent_append`). Neither law looks at the content.
-/

namespace Credential.Der

variable {input content field rest p : Bytes} {b : UInt8} {n : Nat} {tag : Tag}

/-! ## Length fields -/

/-- The octets that denote a length: one octet below `0x80`, or the number of the one to four octets
that write it, which need not be the fewest. -/
inductive LengthField : Bytes → Nat → Prop
  | short {n : Nat} : n < 0x80 → LengthField [UInt8.ofNat n] n
  | long {digits : Bytes} : 0 < digits.length → digits.length ≤ 4 →
      LengthField (UInt8.ofNat (0x80 + digits.length) :: digits) (Bytes.toNat digits)

/-- The octets that are there are taken, and no others. -/
theorem take_eq_ok_iff {count : Nat} :
    take count input = .ok (content, rest) ↔ input = content ++ rest ∧ content.length = count := by
  unfold take
  constructor
  · intro h
    split at h
    · cases h
    · next hlength =>
        cases h
        refine ⟨(List.take_append_drop count input).symm, ?_⟩
        rw [List.length_take]
        omega
  · rintro ⟨rfl, rfl⟩
    exact take_append content rest

theorem take_of_short {count : Nat} (h : input.length < count) :
    take count input = .error .unexpectedEnd :=
  if_pos h

theorem toNat_ofNat_of_lt (h : n < 256) : (UInt8.ofNat n).toNat = n := by
  rw [UInt8.toNat_ofNat']
  omega

theorem readLength_append (h : LengthField field n) (rest : Bytes) :
    readLength (field ++ rest) = .ok (n, rest) := by
  cases h with
  | short hn =>
      have hoctet := toNat_ofNat_of_lt (n := n) (by omega)
      have hlt : UInt8.ofNat n < 0x80 := by
        rw [UInt8.lt_iff_toNat_lt, hoctet]
        exact hn
      rw [List.singleton_append, readLength_of_lt hlt, hoctet]
  | long hpos hle => exact readLength_of_digits hpos hle rest

theorem readLength_eq_ok_iff :
    readLength input = .ok (n, rest) ↔ ∃ field, LengthField field n ∧ input = field ++ rest := by
  constructor
  · intro h
    cases input with
    | nil => cases h
    | cons b bs =>
        unfold readLength at h
        dsimp only at h
        split at h
        · next hshort =>
            cases h
            have hb : b.toNat < 0x80 := UInt8.lt_iff_toNat_lt.1 hshort
            have hfield : LengthField [UInt8.ofNat b.toNat] b.toNat := .short hb
            rw [UInt8.ofNat_toNat] at hfield
            exact ⟨[b], hfield, rfl⟩
        · next hlong =>
            have hb : 0x80 ≤ b.toNat := by
              rw [UInt8.lt_iff_toNat_lt] at hlong
              exact Nat.le_of_not_lt hlong
            split at h
            · cases h
            split at h
            · cases h
            obtain ⟨⟨digits, left⟩, htake, h⟩ := bind_eq_ok_iff.1 h
            cases h
            obtain ⟨rfl, hlength⟩ := take_eq_ok_iff.1 htake
            have hfirst : b = UInt8.ofNat (0x80 + digits.length) := by
              apply UInt8.toNat_inj.1
              rw [toNat_ofNat_of_lt (by omega)]
              omega
            refine ⟨b :: digits, ?_, rfl⟩
            rw [hfirst]
            exact .long (by omega) (by omega)
  · rintro ⟨field, hfield, rfl⟩
    exact readLength_append hfield rest

/-- A length field that breaks off. -/
theorem readLength_truncated (h : LengthField field n) (hp : p <+: field) (hne : p ≠ field) :
    readLength p = .error .unexpectedEnd := by
  cases p with
  | nil => rfl
  | cons b bs =>
      cases h with
      | short hn =>
          -- the only octet of a short field is all of it
          obtain ⟨rfl, hbs⟩ := List.cons_prefix_cons.1 hp
          exact absurd (by rw [List.prefix_nil.1 hbs]) hne
      | @long digits hpos hle =>
          obtain ⟨rfl, hbs⟩ := List.cons_prefix_cons.1 hp
          have hshort : bs.length < digits.length := by
            rcases Nat.lt_or_ge bs.length digits.length with hlt | hge
            · exact hlt
            · exact absurd (by rw [hbs.eq_of_length_le hge]) hne
          have hoctet := toNat_ofNat_of_lt (n := 0x80 + digits.length) (by omega)
          have hlong : ¬ UInt8.ofNat (0x80 + digits.length) < 0x80 := by
            rw [UInt8.lt_iff_toNat_lt, hoctet]
            simp
          unfold readLength
          dsimp only
          rw [if_neg hlong, hoctet, Nat.add_sub_cancel_left, if_neg (by omega), if_neg (by omega),
            take_of_short hshort]
          rfl

/-! ## Elements -/

theorem readAny_eq_ok_iff : readAny input = .ok ((tag, content), rest) ↔
    ∃ b field, Tag.ofOctet b = tag ∧ LengthField field content.length ∧
      input = b :: (field ++ (content ++ rest)) := by
  constructor
  · intro h
    cases input with
    | nil => cases h
    | cons b bs =>
        rw [readAny_cons] at h
        obtain ⟨⟨n, unread⟩, hlength, h⟩ := bind_eq_ok_iff.1 h
        obtain ⟨⟨found, left⟩, htake, h⟩ := bind_eq_ok_iff.1 h
        cases h
        obtain ⟨field, hfield, rfl⟩ := readLength_eq_ok_iff.1 hlength
        obtain ⟨rfl, rfl⟩ := take_eq_ok_iff.1 htake
        exact ⟨b, field, rfl, hfield, rfl⟩
  · rintro ⟨b, field, rfl, hfield, rfl⟩
    rw [readAny_cons, readLength_append hfield]
    dsimp only [bind, Except.bind]
    rw [take_append]

/-- A complete element and nothing else. -/
def IsElement (element : Bytes) : Prop :=
  ∃ b field content, LengthField field content.length ∧ element = b :: (field ++ content)

theorem readElement_append {element : Bytes} (h : IsElement element) (rest : Bytes) :
    readElement (element ++ rest) = .ok (element, rest) := by
  obtain ⟨b, field, content, hfield, rfl⟩ := h
  have hany : readAny (b :: (field ++ content) ++ rest) = .ok ((.ofOctet b, content), rest) := by
    refine readAny_eq_ok_iff.2 ⟨b, field, rfl, hfield, ?_⟩
    rw [List.cons_append, List.append_assoc]
  have hlength : (b :: (field ++ content) ++ rest).length - rest.length =
      (b :: (field ++ content)).length := by
    rw [List.length_append, Nat.add_sub_cancel]
  unfold readElement
  rw [hany]
  dsimp only [bind, Except.bind]
  rw [hlength, List.take_left]
  rfl

/-- An element that breaks off, whatever is left of it. -/
theorem readValue_truncated (h : LengthField field content.length)
    (hp : p <+: b :: (field ++ content)) (hne : p ≠ b :: (field ++ content)) :
    readValue (.ofOctet b) p = .error .unexpectedEnd := by
  cases p with
  | nil => rfl
  | cons first bs =>
      obtain ⟨rfl, hbs⟩ := List.cons_prefix_cons.1 hp
      have hne : bs ≠ field ++ content := fun heq => hne (by rw [heq])
      rw [readValue_cons, if_pos rfl]
      -- the rest of the element breaks off in the length field or in the content
      rcases Nat.lt_or_ge bs.length field.length with hlt | hge
      · have hfield : bs <+: field :=
          List.prefix_of_prefix_length_le hbs (List.prefix_append _ _) (Nat.le_of_lt hlt)
        rw [readLength_truncated h hfield (by rintro rfl; omega)]
        rfl
      · obtain ⟨part, rfl⟩ :=
          List.prefix_of_prefix_length_le (List.prefix_append field content) hbs hge
        have hpart : part <+: content := (List.prefix_append_right_inj field).1 hbs
        have hshort : part.length < content.length := by
          rcases Nat.lt_or_ge part.length content.length with hlt | hge
          · exact hlt
          · exact absurd (by rw [hpart.eq_of_length_le hge]) hne
        rw [readLength_append h]
        exact take_of_short hshort

/-! ## Byte strings that are one SEQUENCE -/

theorem sequenceContent_eq_ok_iff : sequenceContent input = .ok content ↔
    ∃ field, LengthField field content.length ∧ input = 0x30 :: (field ++ content) := by
  constructor
  · intro h
    have hany := readValue_eq_ok_iff.1 (readSequence_of_sequenceContent h)
    obtain ⟨b, field, htag, hfield, rfl⟩ := readAny_eq_ok_iff.1 hany
    have hb : b = 0x30 := by
      -- no other octet is the tag of a SEQUENCE
      unfold Tag.ofOctet at htag
      repeat' split at htag
      all_goals first | assumption | cases htag
    rw [hb, List.append_nil]
    exact ⟨field, hfield, rfl⟩
  · rintro ⟨field, hfield, rfl⟩
    have hread : readValue .sequence (0x30 :: (field ++ content)) = .ok (content, []) :=
      readValue_eq_ok_iff.2
        (readAny_eq_ok_iff.2 ⟨0x30, field, rfl, hfield, by rw [List.append_nil]⟩)
    unfold sequenceContent readSequence
    rw [hread]
    rfl

/-- A SEQUENCE of which the last octets are missing. -/
theorem sequenceContent_truncated (h : sequenceContent input = .ok content) (hp : p <+: input)
    (hne : p ≠ input) : sequenceContent p = .error .unexpectedEnd := by
  obtain ⟨field, hfield, rfl⟩ := sequenceContent_eq_ok_iff.1 h
  have hread : readValue .sequence p = .error .unexpectedEnd :=
    readValue_truncated hfield hp hne
  unfold sequenceContent readSequence
  rw [hread]
  rfl

/-- A SEQUENCE with octets after it. -/
theorem sequenceContent_append (h : sequenceContent input = .ok content) (hne : rest ≠ []) :
    sequenceContent (input ++ rest) = .error (.trailingData rest.length) := by
  obtain ⟨field, hfield, rfl⟩ := sequenceContent_eq_ok_iff.1 h
  have hread : readValue .sequence (0x30 :: (field ++ content) ++ rest) = .ok (content, rest) := by
    refine readValue_eq_ok_iff.2 (readAny_eq_ok_iff.2 ⟨0x30, field, rfl, hfield, ?_⟩)
    rw [List.cons_append, List.append_assoc]
  have hfinish : finish rest = .error (.trailingData rest.length) :=
    if_neg (by simpa using hne)
  unfold sequenceContent readSequence
  rw [hread]
  dsimp only [bind, Except.bind]
  rw [hfinish]

end Credential.Der
