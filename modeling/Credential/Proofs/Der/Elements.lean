import Credential.Proofs.Der.Framing

/-!
# Elements one after the other

An input begins with an element in one way at most, as its octets say where the length field and the
content end (`Split.unique`). The reader finds this split (`readAny_eq_ok_iff_split`), octets after
the element change nothing (`Split.append`), and the faults of all other inputs are told apart by
`ElementFault`: an element that breaks off, an indefinite length, and a length of more than four
octets (`readAny_eq_error_iff`).

`readElements` reads until nothing is left. It gives a list of elements exactly if the input is
their concatenation (`readElements_eq_ok_iff`).
-/

namespace Credential.Der

variable {input content rest : Bytes} {tag : Tag} {cause : Error}

/-! ## Splits -/

/-- How an input begins with an element: its identifier octet, its length field, its content, and
the octets after it. -/
structure Split (input : Bytes) where
  octet : UInt8
  field : Bytes
  content : Bytes
  rest : Bytes
  denotes : LengthField field content.length
  input_eq : input = octet :: (field ++ (content ++ rest))

namespace Split

/-- The element as it is. -/
def element (split : Split input) : Bytes :=
  split.octet :: (split.field ++ split.content)

/-- The same element, with more octets after it. -/
def append (split : Split input) (more : Bytes) : Split (input ++ more) where
  octet := split.octet
  field := split.field
  content := split.content
  rest := split.rest ++ more
  denotes := split.denotes
  input_eq := by
    calc input ++ more
        = split.octet :: (split.field ++ (split.content ++ split.rest)) ++ more := by
          rw [← split.input_eq]
      _ = split.octet :: (split.field ++ (split.content ++ (split.rest ++ more))) := by simp

theorem isElement (split : Split input) : IsElement split.element :=
  ⟨split.octet, split.field, split.content, split.denotes, rfl⟩

theorem element_append_rest (split : Split input) : split.element ++ split.rest = input := by
  calc split.element ++ split.rest
      = split.octet :: (split.field ++ (split.content ++ split.rest)) := by simp [element]
    _ = input := split.input_eq.symm

theorem readAny_eq (split : Split input) :
    readAny input = .ok ((.ofOctet split.octet, split.content), split.rest) :=
  readAny_eq_ok_iff.2 ⟨split.octet, split.field, rfl, split.denotes, split.input_eq⟩

theorem readElement_eq (split : Split input) :
    readElement input = .ok (split.element, split.rest) := by
  have hread := readElement_append split.isElement split.rest
  rwa [split.element_append_rest] at hread

/-- An input begins with one element at most. -/
theorem unique (first second : Split input) : first = second := by
  have hread := Except.ok.inj (first.readAny_eq.symm.trans second.readAny_eq)
  obtain ⟨hany, hrest⟩ := Prod.mk.inj hread
  have hcontent := (Prod.mk.inj hany).2
  obtain ⟨octet, field, content, rest, denotes, rfl⟩ := first
  obtain ⟨octet', field', content', rest', denotes', heq⟩ := second
  obtain rfl : content = content' := hcontent
  obtain rfl : rest = rest' := hrest
  -- what was read is the same, so the length fields before it are
  obtain ⟨rfl, hfield⟩ := List.cons.inj heq
  obtain rfl := List.append_cancel_right hfield
  rfl

end Split

theorem readAny_eq_ok_iff_split : readAny input = .ok ((tag, content), rest) ↔
    ∃ split : Split input,
      Tag.ofOctet split.octet = tag ∧ split.content = content ∧ split.rest = rest := by
  rw [readAny_eq_ok_iff]
  constructor
  · rintro ⟨b, field, htag, hfield, hinput⟩
    exact ⟨⟨b, field, content, rest, hfield, hinput⟩, htag, rfl, rfl⟩
  · rintro ⟨split, htag, rfl, rfl⟩
    exact ⟨split.octet, split.field, htag, split.denotes, split.input_eq⟩

/-- An element that was read is where the input begins. -/
theorem exists_split_of_readElement {element : Bytes}
    (h : readElement input = .ok (element, rest)) :
    ∃ split : Split input, split.element = element ∧ split.rest = rest := by
  obtain ⟨⟨⟨tag, content⟩, left⟩, hany, -⟩ := bind_eq_ok_iff.1 h
  obtain ⟨split, -, -, -⟩ := readAny_eq_ok_iff_split.1 hany
  have hread := split.readElement_eq.symm.trans h
  cases hread
  exact ⟨split, rfl, rfl⟩

/-! ## Faults -/

theorem take_eq_error_iff {count : Nat} :
    take count input = .error cause ↔ input.length < count ∧ cause = .unexpectedEnd := by
  unfold take
  split
  · next hshort => simp [hshort, eq_comm]
  · next hlong => simp [hlong]

/-- Octets that are too few begin others that are enough. -/
theorem exists_completion {part : Bytes} {n : Nat} (h : part.length < n) :
    ∃ whole : Bytes, whole.length = n ∧ part <+: whole ∧ part ≠ whole := by
  have hlength : (part ++ List.replicate (n - part.length) 0).length = n := by
    rw [List.length_append, List.length_replicate]
    omega
  refine ⟨_, hlength, List.prefix_append _ _, ?_⟩
  intro heq
  rw [← heq] at hlength
  omega

/-- Why octets do not begin with a length field: the last octets of one are missing, the length is
indefinite, or it has too many octets. -/
inductive LengthFault : Bytes → Error → Prop
  | truncated {input field : Bytes} {n : Nat} : LengthField field n → input <+: field →
      input ≠ field → LengthFault input .unexpectedEnd
  | indefinite (rest : Bytes) : LengthFault (0x80 :: rest) .indefiniteLength
  | overflow {count : Nat} (rest : Bytes) : 4 < count → count < 0x80 →
      LengthFault (UInt8.ofNat (0x80 + count) :: rest) (.lengthOverflow count)

theorem readLength_eq_error_iff : readLength input = .error cause ↔ LengthFault input cause := by
  constructor
  · intro h
    cases input with
    | nil =>
        cases h
        exact .truncated (.short (by decide : 0 < 0x80)) List.nil_prefix (by simp)
    | cons b bs =>
        have hlt : b.toNat < 256 := b.toNat_lt
        unfold readLength at h
        dsimp only at h
        split at h
        · cases h
        next hlong =>
        have hb : 0x80 ≤ b.toNat := by
          rw [UInt8.lt_iff_toNat_lt] at hlong
          exact Nat.le_of_not_lt hlong
        obtain ⟨count, hcount⟩ : ∃ count, b.toNat = 0x80 + count := ⟨b.toNat - 0x80, by omega⟩
        obtain rfl : b = UInt8.ofNat (0x80 + count) := by rw [← hcount, UInt8.ofNat_toNat]
        rw [hcount, Nat.add_sub_cancel_left] at h
        split at h
        · next hzero =>
            cases h
            rw [hzero]
            exact .indefinite bs
        split at h
        · next hmany =>
            cases h
            exact .overflow bs hmany (by omega)
        next hpos hfew =>
        rcases bind_eq_error_iff.1 h with htake | ⟨_, -, hpure⟩
        · obtain ⟨hshort, rfl⟩ := take_eq_error_iff.1 htake
          obtain ⟨digits, rfl, hlead, hne⟩ := exists_completion hshort
          have hfield : LengthField (UInt8.ofNat (0x80 + digits.length) :: digits) _ :=
            .long (by omega) (by omega)
          exact .truncated hfield ((List.prefix_cons_inj _).2 hlead)
            fun heq => hne (List.cons.inj heq).2
        · cases hpure
  · intro h
    cases h with
    | truncated hfield hlead hne => exact readLength_truncated hfield hlead hne
    | indefinite rest =>
        unfold readLength
        dsimp only
        rw [if_neg (by decide), if_pos (by decide)]
    | @overflow count rest hmany hlt =>
        have hoctet := toNat_ofNat_of_lt (n := 0x80 + count) (by omega)
        have hlong : ¬ UInt8.ofNat (0x80 + count) < 0x80 := by
          rw [UInt8.lt_iff_toNat_lt, hoctet]
          simp
        unfold readLength
        dsimp only
        rw [if_neg hlong, hoctet, Nat.add_sub_cancel_left, if_neg (by omega), if_pos hmany]

/-- Why octets do not begin with an element: the last octets of one are missing, its length is
indefinite, or its length has too many octets. -/
inductive ElementFault (input : Bytes) : Error → Prop
  | truncated {element : Bytes} : IsElement element → input <+: element → input ≠ element →
      ElementFault input .unexpectedEnd
  | indefinite {b : UInt8} {rest : Bytes} : input = b :: 0x80 :: rest →
      ElementFault input .indefiniteLength
  | overflow {b : UInt8} {count : Nat} {rest : Bytes} : 4 < count → count < 0x80 →
      input = b :: UInt8.ofNat (0x80 + count) :: rest → ElementFault input (.lengthOverflow count)

/-- The reader of any tag is the reader of the tag that it finds. -/
theorem readAny_eq_readValue (b : UInt8) (bs : Bytes) : readAny (b :: bs) =
    readValue (.ofOctet b) (b :: bs) >>= fun q => .ok ((.ofOctet b, q.1), q.2) := by
  rw [readAny_cons, readValue_cons, if_pos rfl]
  cases readLength bs <;> rfl

/-- An element that breaks off. -/
theorem readAny_truncated {element p : Bytes} (h : IsElement element) (hp : p <+: element)
    (hne : p ≠ element) : readAny p = .error .unexpectedEnd := by
  obtain ⟨b, field, content, hfield, rfl⟩ := h
  cases p with
  | nil => rfl
  | cons first bs =>
      have hread := readValue_truncated hfield hp hne
      obtain ⟨rfl, -⟩ := List.cons_prefix_cons.1 hp
      rw [readAny_eq_readValue, hread]
      rfl

/-- An element that breaks off in its length field. -/
theorem elementFault_of_field {b : UInt8} {field part : Bytes} {n : Nat}
    (hfield : LengthField field n) (hlead : part <+: field) (hne : part ≠ field) :
    ElementFault (b :: part) .unexpectedEnd := by
  have helement : IsElement (b :: (field ++ List.replicate n 0)) :=
    ⟨b, field, _, by rwa [List.length_replicate], rfl⟩
  refine .truncated helement
    ((List.prefix_cons_inj b).2 (hlead.trans (List.prefix_append _ _))) ?_
  intro heq
  have hle : field.length ≤ part.length := by
    rw [(List.cons.inj heq).2, List.length_append]
    exact Nat.le_add_right _ _
  exact hne (hlead.eq_of_length_le hle)

/-- An element that breaks off in its content. -/
theorem elementFault_of_content {b : UInt8} {field part : Bytes} {n : Nat}
    (hfield : LengthField field n) (hshort : part.length < n) :
    ElementFault (b :: (field ++ part)) .unexpectedEnd := by
  obtain ⟨whole, rfl, hlead, hne⟩ := exists_completion hshort
  exact .truncated ⟨b, field, whole, hfield, rfl⟩
    ((List.prefix_cons_inj b).2 ((List.prefix_append_right_inj field).2 hlead))
    fun heq => hne (List.append_cancel_left (List.cons.inj heq).2)

theorem readAny_eq_error_iff : readAny input = .error cause ↔ ElementFault input cause := by
  constructor
  · intro h
    cases input with
    | nil =>
        cases h
        have hfield : LengthField [UInt8.ofNat 0] ([] : Bytes).length := .short (by decide)
        exact .truncated ⟨0, _, [], hfield, rfl⟩ List.nil_prefix (by simp)
    | cons b bs =>
        rw [readAny_cons] at h
        rcases bind_eq_error_iff.1 h with hlength | ⟨⟨n, unread⟩, hlength, hcontent⟩
        · cases readLength_eq_error_iff.1 hlength with
          | truncated hfield hlead hne => exact elementFault_of_field hfield hlead hne
          | indefinite rest => exact .indefinite rfl
          | overflow rest hmany hlt => exact .overflow hmany hlt rfl
        · obtain ⟨field, hfield, rfl⟩ := readLength_eq_ok_iff.1 hlength
          rcases bind_eq_error_iff.1 hcontent with htake | ⟨_, -, hpure⟩
          · obtain ⟨hshort, rfl⟩ := take_eq_error_iff.1 htake
            exact elementFault_of_content hfield hshort
          · cases hpure
  · intro h
    cases h with
    | truncated helement hlead hne => exact readAny_truncated helement hlead hne
    | @indefinite b rest heq =>
        rw [heq, readAny_cons, readLength_eq_error_iff.2 (.indefinite rest)]
        rfl
    | @overflow b count rest hmany hlt heq =>
        rw [heq, readAny_cons, readLength_eq_error_iff.2 (.overflow rest hmany hlt)]
        rfl

/-- Where no element can be read, there is none to read as it is. -/
theorem readElement_eq_error_iff : readElement input = .error cause ↔ ElementFault input cause := by
  rw [← readAny_eq_error_iff]
  constructor
  · intro h
    rcases bind_eq_error_iff.1 h with hany | ⟨_, -, hpure⟩
    · exact hany
    · cases hpure
  · intro h
    exact bind_eq_error_iff.2 (Or.inl h)

/-! ## All elements -/

theorem length_rest_lt {element : Bytes} (h : readElement input = .ok (element, rest)) :
    rest.length < input.length := by
  obtain ⟨split, -, rfl⟩ := exists_split_of_readElement h
  have hlength := congrArg List.length split.input_eq
  simp only [List.length_cons, List.length_append] at hlength
  omega

/-- The elements of an input, read one after the other until nothing is left. -/
def readElements (input : Bytes) : Except Error (List Bytes) :=
  if input.isEmpty then .ok []
  else match _h : readElement input with
    | .error cause => .error cause
    | .ok (element, rest) => (readElements rest).map (element :: ·)
termination_by input.length
decreasing_by exact length_rest_lt _h

theorem readElements_append {element : Bytes} (h : IsElement element) (rest : Bytes) :
    readElements (element ++ rest) = (readElements rest).map (element :: ·) := by
  have hread := readElement_append h rest
  obtain ⟨b, field, content, -, rfl⟩ := h
  rw [readElements, if_neg (by simp)]
  split
  · next cause hfault =>
      rw [hread] at hfault
      cases hfault
  · next found left hok =>
      rw [hread] at hok
      cases hok
      rfl

/-- A list of elements is read from its concatenation and from no other input. -/
theorem readElements_eq_ok_iff {elements : List Bytes} : readElements input = .ok elements ↔
    (∀ element ∈ elements, IsElement element) ∧ elements.flatten = input := by
  constructor
  · intro h
    induction hlength : input.length using Nat.strongRecOn generalizing input elements with
    | ind length ih =>
        rw [readElements] at h
        split at h
        · next hempty =>
            cases h
            exact ⟨fun element hmem => (List.not_mem_nil hmem).elim,
              (List.isEmpty_iff.1 hempty).symm⟩
        split at h
        · cases h
        · next element rest hread =>
            obtain ⟨others, hothers, rfl⟩ := map_eq_ok_iff.1 h
            obtain ⟨helements, rfl⟩ := ih _ (hlength ▸ length_rest_lt hread) hothers rfl
            obtain ⟨split, rfl, hrest⟩ := exists_split_of_readElement hread
            refine ⟨List.forall_mem_cons.2 ⟨split.isElement, helements⟩, ?_⟩
            rw [List.flatten_cons, ← hrest, split.element_append_rest]
  · rintro ⟨helements, rfl⟩
    induction elements with
    | nil => rw [List.flatten_nil, readElements]; exact if_pos rfl
    | cons element others ih =>
        obtain ⟨helement, hothers⟩ := List.forall_mem_cons.1 helements
        rw [List.flatten_cons, readElements_append helement, ih hothers]
        rfl

/-! ## Main result -/

/-- An element is read exactly if the input begins with one, which it does in one way at most. It is
read as it is, whatever follows, and no proper prefix of it can be read. Every fault has its own
inputs. Read to the end, an input gives the elements of which it is the concatenation. -/
theorem elements_are_framed (input : Bytes) :
    (∀ tag content rest, readAny input = .ok ((tag, content), rest) ↔
      ∃ split : Split input,
        Tag.ofOctet split.octet = tag ∧ split.content = content ∧ split.rest = rest) ∧
    (∀ first second : Split input, first = second) ∧
    (∀ split : Split input,
      readElement input = .ok (split.element, split.rest) ∧
      (∀ more,
        readAny (input ++ more) =
          .ok ((Tag.ofOctet split.octet, split.content), split.rest ++ more) ∧
        readElement (input ++ more) = .ok (split.element, split.rest ++ more)) ∧
      (∀ p, p <+: split.element → p ≠ split.element →
        readAny p = .error .unexpectedEnd ∧ readElement p = .error .unexpectedEnd)) ∧
    (∀ cause,
      (readAny input = .error cause ↔ ElementFault input cause) ∧
      (readElement input = .error cause ↔ ElementFault input cause)) ∧
    (∀ elements, readElements input = .ok elements ↔
      (∀ element ∈ elements, IsElement element) ∧ elements.flatten = input) := by
  refine ⟨fun _ _ _ => readAny_eq_ok_iff_split, Split.unique, ?element,
    fun _ => ⟨readAny_eq_error_iff, readElement_eq_error_iff⟩, fun _ => readElements_eq_ok_iff⟩
  case element =>
    intro split
    refine ⟨split.readElement_eq, ?more, ?shorter⟩
    case more =>
      intro more
      exact ⟨(split.append more).readAny_eq, (split.append more).readElement_eq⟩
    case shorter =>
      intro p hp hne
      have hfault : ElementFault p .unexpectedEnd := .truncated split.isElement hp hne
      exact ⟨readAny_eq_error_iff.2 hfault, readElement_eq_error_iff.2 hfault⟩

/-- An element with a length that is not the shortest and an element without content, read together,
and lengths that no element has. -/
theorem elements_are_framed_two :
    readAny [0x30, 0x81, 0x03, 0x02, 0x01, 0x01, 0x05, 0x00] =
      .ok ((.sequence, [0x02, 0x01, 0x01]), [0x05, 0x00]) ∧
    readElements [0x30, 0x81, 0x03, 0x02, 0x01, 0x01, 0x05, 0x00] =
      .ok [[0x30, 0x81, 0x03, 0x02, 0x01, 0x01], [0x05, 0x00]] ∧
    readAny [0x30, 0x81, 0x03, 0x02, 0x01] = .error .unexpectedEnd ∧
    readElement [0x30, 0x80, 0x00, 0x00] = .error .indefiniteLength ∧
    readElement [0x30, 0x85, 0x01] = .error (.lengthOverflow 5) := by
  obtain ⟨hany, -, hsplit, -, hall⟩ :=
    elements_are_framed [0x30, 0x81, 0x03, 0x02, 0x01, 0x01, 0x05, 0x00]
  have hlong : LengthField [0x81, 0x03] 3 := @LengthField.long [0x03] (by decide) (by decide)
  have hshort : LengthField [0x00] 0 := .short (by decide)
  let split : Split [0x30, 0x81, 0x03, 0x02, 0x01, 0x01, 0x05, 0x00] :=
    ⟨0x30, [0x81, 0x03], [0x02, 0x01, 0x01], [0x05, 0x00], hlong, rfl⟩
  refine ⟨(hany _ _ _).2 ⟨split, rfl, rfl, rfl⟩, (hall _).2 ⟨?_, rfl⟩, ?_, ?_, ?_⟩
  · exact List.forall_mem_cons.2
      ⟨split.isElement, List.forall_mem_singleton.2 ⟨0x05, [0x00], [], hshort, rfl⟩⟩
  · exact ((hsplit split).2.2 _ ⟨[0x01], rfl⟩ (by simp [split, Split.element])).1
  · exact ((elements_are_framed _).2.2.2.1 _).2.2 (.indefinite rfl)
  · exact ((elements_are_framed _).2.2.2.1 _).2.2 (.overflow (by decide) (by decide) rfl)

end Credential.Der
