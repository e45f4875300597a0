import Credential.Proofs.Pem.Line
import Credential.Proofs.Pem.Printing
import Credential.Proofs.Text.Base64Reading

/-!
# Printing and reading are inverse

What the reader knows between two lines is in the form that a text can have (`Position.IsRead`): a
label over the label characters, headers without blanks around name and value, and lines of payload
that are not empty. One line keeps this up (`IsRead.advance`), so every block that a text gives has
that form too (`isRead_of_ofText`).

A payload that decodes is the encoding of what it decodes to, and an encoding can be printed. So a
block that was read and decodes is printed as a text that is read as the same block, and every block
of that form is found by printing (`print_and_read_inverse`).
-/

namespace Credential.Pem

/-! ## Blocks of texts -/

theorem Label.text_ofText (s : String) : (Label.ofText s).text = s := by
  grind [Label.ofText, Label.text]

/-- The label with a text that a boundary can carry. -/
theorem Label.isPrintable_ofText {s : String} (h : IsLabelText s.toList) :
    (Label.ofText s).IsPrintable where
  text := by
    rw [Label.text_ofText]
    exact h
  ofText := by
    rw [Label.text_ofText]

/-- A header without blanks around its name and its value. -/
structure Header.IsTrimmed (header : Header) : Prop extends Header.IsPrintable header where
  trim_value : Text.trim header.value.toList = header.value.toList

/-- Trimming once more changes nothing. -/
theorem Header.IsTrimmed.trimmed_eq {header : Header} (h : header.IsTrimmed) :
    header.trimmed = header := by
  unfold Header.trimmed
  rw [h.trim_value, String.ofList_toList]

/-- A block with a label and headers that lines can write. -/
structure Block.IsWritable (block : Block) : Prop where
  label : ∃ text : String, IsLabelText text.toList ∧ block.label = .ofText text
  headers : ∀ header ∈ block.headers, header.IsTrimmed

/-- A block that can be written, whose payload is the base64 text of a byte string that is not
empty. -/
structure Block.Carries (block : Block) (data : Bytes) : Prop extends Block.IsWritable block where
  payload : block.payload = Text.Base64.encode data
  data_ne_nil : data ≠ []

/-- A block as a text gives it, before its payload is decoded. -/
structure Block.IsRead (block : Block) : Prop extends Block.IsWritable block where
  payload_ne_nil : block.payload ≠ ""

/-! ## One line -/

/-- What is known between two lines: the label of an open block, its headers so far, and lines of
payload, none of them empty. -/
def Position.IsRead : Position → Prop
  | .outside => True
  | .inside label headers payload =>
    IsLabelText label ∧ (∀ header ∈ headers, header.IsTrimmed) ∧ ∀ line ∈ payload, line ≠ []

/-- What is known of the result of a line. -/
def Progress.IsRead : Progress → Prop
  | .more position => position.IsRead
  | .closed block => block.IsRead

variable {line : List Char}

/-- The header of a line with a colon. -/
theorem isTrimmed_of_splitAt? {name value : List Char} (hfeed : '\n' ∉ line)
    (hcut : Text.splitAt? ':' line = some (name, value)) (hname : Text.trim name ≠ []) :
    Header.IsTrimmed ⟨String.ofList (Text.trim name), String.ofList (Text.trim value)⟩ := by
  obtain ⟨rfl, hcolon⟩ := Text.eq_of_splitAt? hcut
  -- trimming adds nothing, so what the line does not have is in neither part
  have hfeedName : '\n' ∉ Text.trim name := by
    intro hmem
    exact hfeed (List.mem_append_left _ (Text.mem_of_mem_trim hmem))
  have hfeedValue : '\n' ∉ Text.trim value := by
    intro hmem
    exact hfeed (List.mem_append_right _ (List.mem_cons_of_mem _ (Text.mem_of_mem_trim hmem)))
  have hcolonName : ':' ∉ Text.trim name := fun hmem => hcolon (Text.mem_of_mem_trim hmem)
  refine ⟨⟨?_, ?_, ?_, ?_, ?_⟩, ?_⟩ <;> simp only [String.toList_ofList, Text.trim_trim]
  · exact hname
  · exact hcolonName
  · exact hfeedName
  · exact hfeedValue

/-- One line keeps up what is known. -/
theorem Position.IsRead.advance {position : Position} (h : position.IsRead) (hfeed : '\n' ∉ line)
    {progress : Progress} (hadvance : position.advance line = .ok progress) : progress.IsRead := by
  have hfeed' : '\n' ∉ Text.trim line := fun hmem => hfeed (Text.mem_of_mem_trim hmem)
  have hadvances := position.advances line
  rw [hadvance] at hadvances
  cases hadvances with
  | skipped => trivial
  | opened hlabel => exact ⟨hlabel, by simp, by simp⟩
  | ignored label headers payload => exact h
  | header label headers payload hcut hname =>
      obtain ⟨hlabel, hheaders, hpayload⟩ := h
      refine ⟨hlabel, ?_, hpayload⟩
      intro header hmem
      rcases List.mem_cons.1 hmem with rfl | hmem
      · exact isTrimmed_of_splitAt? hfeed' hcut hname
      · exact hheaders header hmem
  | payload label headers payload hne =>
      obtain ⟨hlabel, hheaders, hpayload⟩ := h
      refine ⟨hlabel, hheaders, ?_⟩
      intro other hmem
      rcases List.mem_cons.1 hmem with rfl | hmem
      · exact hne
      · exact hpayload other hmem
  | @closed label headers payload hne =>
      obtain ⟨hlabel, hheaders, hpayload⟩ := h
      refine ⟨⟨⟨String.ofList label, ?_, rfl⟩, ?_⟩, ?_⟩
      · rw [String.toList_ofList]
        exact hlabel
      · intro header hmem
        exact hheaders header (List.mem_reverse.1 hmem)
      · -- a line of payload is left, and it is not empty
        obtain ⟨first, rest, rfl⟩ := List.exists_cons_of_ne_nil hne
        have hfirst := hpayload first List.mem_cons_self
        intro hnil
        have hflat := congrArg String.toList hnil
        simp_all

/-! ## All lines -/

theorem isRead_of_firstBlock {position : Position} (h : position.IsRead)
    {lines : List (List Char)} (hfeed : ∀ line ∈ lines, '\n' ∉ line) {block : Block}
    (hread : firstBlock position lines = .ok block) : block.IsRead := by
  -- the induction is on the lines that are left, and the position is any that may come up
  induction lines generalizing position with
  | nil => cases hread
  | cons line lines ih =>
      have hrest : ∀ later ∈ lines, '\n' ∉ later :=
        fun later hmem => hfeed later (List.mem_cons_of_mem _ hmem)
      rw [firstBlock] at hread
      cases hadvance : position.advance line with
      | error cause =>
          simp only [hadvance] at hread
          cases hread
      | ok progress =>
          have hprogress := h.advance (hfeed line List.mem_cons_self) hadvance
          cases progress with
          | more next =>
              simp only [hadvance] at hread
              exact ih hprogress hrest hread
          | closed found =>
              simp only [hadvance] at hread
              cases hread
              exact hprogress

/-- The block that a text gives. -/
theorem Block.isRead_of_ofText {s : String} {block : Block} (h : Block.ofText s = .ok block) :
    block.IsRead := by
  have hstart : Position.outside.IsRead := trivial
  exact isRead_of_firstBlock hstart (fun _ => Text.feed_not_mem_of_mem_lines) h

/-! ## Payloads -/

/-- A payload decodes if and only if it is the base64 text of what it decodes to. -/
theorem Block.decode_eq_ok_iff {block : Block} {data : Bytes} :
    block.decode = .ok data ↔ block.payload = Text.Base64.encode data := by
  constructor
  · intro h
    unfold Block.decode at h
    cases hoctets : Text.Base64.decodeOctets (Text.Utf8.encode block.payload) with
    | error cause =>
        rw [hoctets] at h
        cases h
    | ok octets =>
        rw [hoctets] at h
        cases h
        -- both texts have the same octets
        have hsame := Text.Base64.decodeOctets_eq_ok_iff.1 hoctets
        rw [← Text.Base64.utf8_encode] at hsame
        have hdecoded := congrArg Text.Utf8.decode? hsame
        rw [Text.Utf8.decode?_encode, Text.Utf8.decode?_encode] at hdecoded
        exact Option.some.inj hdecoded
  · intro h
    obtain ⟨label, headers, payload⟩ := block
    obtain rfl : payload = Text.Base64.encode data := h
    exact Block.decode_encode label headers data

/-- A block that was read and decodes carries what it decodes to. -/
theorem Block.IsRead.carries {block : Block} (h : block.IsRead) {data : Bytes}
    (hdecode : block.decode = .ok data) : block.Carries data where
  toIsWritable := h.toIsWritable
  payload := Block.decode_eq_ok_iff.1 hdecode
  data_ne_nil := by
    rintro rfl
    exact h.payload_ne_nil (Block.decode_eq_ok_iff.1 hdecode)

/-- The text of a block that carries a byte string is read as that block. -/
theorem Block.Carries.exists_text {block : Block} {data : Bytes} (h : block.Carries data) :
    ∃ text, block.print? = some text ∧ Block.ofText text = .ok block := by
  obtain ⟨⟨⟨labelText, hlabel, hofText⟩, hheaders⟩, hpayload, hdata⟩ := h
  obtain ⟨label, headers, payload⟩ := block
  obtain rfl : label = .ofText labelText := hofText
  obtain rfl : payload = Text.Base64.encode data := hpayload
  have htrimmed : headers.map Header.trimmed = headers := by
    calc headers.map Header.trimmed
        = headers.map id := List.map_congr_left fun header hmem => (hheaders header hmem).trimmed_eq
      _ = headers := List.map_id headers
  obtain ⟨text, hprint, hread⟩ := Block.ofText_of_print? (Label.isPrintable_ofText hlabel)
    (fun header hmem => (hheaders header hmem).toIsPrintable) hdata
  rw [htrimmed] at hread
  exact ⟨text, hprint, hread⟩

/-- A block that carries a byte string has a text, which is read as the same block and decodes to
the byte string; and every block that a text gives and that decodes carries what it decodes to, so
it is found again in its own text. -/
theorem print_and_read_inverse (block : Block) (data : Bytes) :
    (block.Carries data → ∃ text, block.print? = some text ∧ Block.ofText text = .ok block ∧
      block.decode = .ok data) ∧
    (∀ s, Block.ofText s = .ok block → block.decode = .ok data →
      block.Carries data ∧ ∃ text, block.print? = some text ∧ Block.ofText text = .ok block) := by
  constructor
  · intro h
    obtain ⟨text, hprint, hread⟩ := h.exists_text
    exact ⟨text, hprint, hread, Block.decode_eq_ok_iff.2 h.payload⟩
  · intro s hs hdecode
    have hcarries := (Block.isRead_of_ofText hs).carries hdecode
    exact ⟨hcarries, hcarries.exists_text⟩

/-- A block with an empty header value, and its text with other blanks. -/
theorem print_and_read_inverse_headers :
    ∃ text, Block.print? ⟨.other "A 1", [⟨"Name", "a: b"⟩, ⟨"Empty", ""⟩], "AQID"⟩ = some text ∧
      Block.ofText text = .ok ⟨.other "A 1", [⟨"Name", "a: b"⟩, ⟨"Empty", ""⟩], "AQID"⟩ ∧
      Block.ofText
          "text\n-----BEGIN A 1----- \nName :a: b\n\nEmpty:\n AQ\nID\n-----END A 1-----\ntext" =
        .ok ⟨.other "A 1", [⟨"Name", "a: b"⟩, ⟨"Empty", ""⟩], "AQID"⟩ := by
  have hread : Block.ofText
      "text\n-----BEGIN A 1----- \nName :a: b\n\nEmpty:\n AQ\nID\n-----END A 1-----\ntext" =
        .ok ⟨.other "A 1", [⟨"Name", "a: b"⟩, ⟨"Empty", ""⟩], "AQID"⟩ := by
    rfl
  have hdecode : Block.decode ⟨.other "A 1", [⟨"Name", "a: b"⟩, ⟨"Empty", ""⟩], "AQID"⟩ =
      .ok [1, 2, 3] := by
    rfl
  have hcarries := ((print_and_read_inverse _ _).2 _ hread hdecode).1
  obtain ⟨text, hprint, hsame, -⟩ := (print_and_read_inverse _ _).1 hcarries
  exact ⟨text, hprint, hsame, hread⟩

end Credential.Pem
