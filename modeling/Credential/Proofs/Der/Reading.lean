import Credential.Der.Reader
import Credential.Proofs.Stages

/-!
# What was read

A reader of one kind of element is the reader of any element, on the inputs that begin with its tag
(`readValue_eq_ok_iff`). So an element that was read has a tag that can be peeked at
(`peekTag_of_readAny`), and an element that was read as it is stands at the beginning of the input
with its tag (`peekTag_of_readElement`).
-/

namespace Credential.Der

variable {input content rest : Bytes} {tag : Tag}

/-- An element: its tag, the length of its content, and the content. -/
theorem readAny_cons (b : UInt8) (bs : Bytes) :
    readAny (b :: bs) =
      readLength bs >>= fun p => take p.1 p.2 >>= fun q => .ok ((.ofOctet b, q.1), q.2) :=
  rfl

theorem readValue_cons (expected : Tag) (b : UInt8) (bs : Bytes) :
    readValue expected (b :: bs) =
      if Tag.ofOctet b = expected then readLength bs >>= fun p => take p.1 p.2
      else .error (.unexpectedTag expected (.ofOctet b)) := by
  change (if Tag.ofOctet b = expected then readLength bs else throw _) >>= _ = _
  split <;> rfl

/-- The reader of a known tag and the reader of any tag agree on that tag. -/
theorem readValue_eq_ok_iff :
    readValue tag input = .ok (content, rest) ↔ readAny input = .ok ((tag, content), rest) := by
  cases input with
  | nil =>
      constructor
      · intro h
        cases h
      · intro h
        cases h
  | cons b bs =>
      rw [readAny_cons, readValue_cons]
      by_cases htag : Tag.ofOctet b = tag
      · subst htag
        simp [bind_eq_ok_iff]
      · simp [bind_eq_ok_iff, htag]

/-- The tag of an element that can be read. -/
theorem peekTag_of_readAny (h : readAny input = .ok ((tag, content), rest)) :
    peekTag input = some tag := by
  cases input with
  | nil => cases h
  | cons b bs =>
      rw [readAny_cons] at h
      obtain ⟨p, -, h⟩ := bind_eq_ok_iff.1 h
      obtain ⟨q, -, h⟩ := bind_eq_ok_iff.1 h
      cases h
      rfl

theorem peekTag_of_readValue (h : readValue tag input = .ok (content, rest)) :
    peekTag input = some tag :=
  peekTag_of_readAny (readValue_eq_ok_iff.1 h)

/-- A number is the content of an INTEGER. -/
theorem readValue_of_readNat {n : Nat} (h : readNat input = .ok (n, rest)) :
    ∃ content, readValue .integer input = .ok (content, rest) := by
  obtain ⟨⟨content, left⟩, hvalue, h⟩ := bind_eq_ok_iff.1 h
  refine ⟨content, ?_⟩
  cases content with
  | nil => cases h
  | cons b bs =>
      dsimp only at h
      split at h
      · cases h
      · cases h
        exact hvalue

theorem readValue_of_readNat64 {n : Nat} (h : readNat64 input = .ok (n, rest)) :
    ∃ content, readValue .integer input = .ok (content, rest) := by
  obtain ⟨⟨m, left⟩, hnat, h⟩ := bind_eq_ok_iff.1 h
  dsimp only at h
  split at h
  · cases h
    exact readValue_of_readNat hnat
  · cases h

/-- The tag of a prefix that has one. -/
theorem peekTag_of_take {count : Nat} (h : peekTag (input.take count) = some tag) :
    peekTag input = some tag := by
  cases input with
  | nil =>
      rw [List.take_nil] at h
      exact h
  | cons b bs =>
      cases count with
      | zero => cases h
      | succ count => exact h

/-- The tag of an element that was read as it is. -/
theorem peekTag_of_readElement {element : Bytes} (h : readElement input = .ok (element, rest))
    (htag : peekTag element = some tag) : peekTag input = some tag := by
  obtain ⟨⟨any, left⟩, -, h⟩ := bind_eq_ok_iff.1 h
  cases h
  exact peekTag_of_take htag

/-- A byte string that is one SEQUENCE and nothing else. -/
theorem readSequence_of_sequenceContent (h : sequenceContent input = .ok content) :
    readSequence input = .ok (content, []) := by
  obtain ⟨⟨found, left⟩, hread, h⟩ := bind_eq_ok_iff.1 h
  obtain ⟨_, hfinish, h⟩ := bind_eq_ok_iff.1 h
  cases h
  cases left with
  | nil => exact hread
  | cons b bs => cases hfinish

end Credential.Der
