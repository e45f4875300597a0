import Credential.Pem.Parser
import Credential.Proofs.Bytes
import Credential.Proofs.Pem.Boundary
import Credential.Proofs.Text.Base64

/-!
# Reading what was printed

`Block.ofText_of_print?`: a printable block that carries a byte string has a text, and the first
block of that text is the block again, with the values of its headers trimmed. The text is read line
by line: the opening boundary, one line for each header, the empty line after them, the lines of
payload and the closing boundary.
-/

namespace Credential.Pem

/-! ## Lines of a block -/

/-- A header that a line can carry. -/
structure Header.IsPrintable (header : Header) : Prop where
  name_ne_nil : header.name.toList ≠ []
  trim_name : Text.trim header.name.toList = header.name.toList
  colon_not_mem : ':' ∉ header.name.toList
  feed_not_mem_name : '\n' ∉ header.name.toList
  feed_not_mem_value : '\n' ∉ header.value.toList

/-- The header as it is read: blanks around its value do not count. -/
def Header.trimmed (header : Header) : Header :=
  ⟨header.name, String.ofList (Text.trim header.value.toList)⟩

/-- The line of a header. -/
def Header.line (header : Header) : List Char :=
  header.name.toList ++ ':' :: ' ' :: header.value.toList

/-- The lines of the headers, and the empty line that ends them. -/
def headerLines (headers : Headers) : List (List Char) :=
  if headers.isEmpty then [] else headers.map Header.line ++ [[]]

/-- The line of an encoded piece of payload. -/
def payloadLine (piece : Bytes) : List Char :=
  piece.map fun b => Char.ofNat b.toNat

/-- A line of a payload: at least one octet, each of them written by the encoding. -/
def IsPiece (piece : Bytes) : Prop :=
  piece ≠ [] ∧ ∀ b ∈ piece, Text.Base64.IsWritten b

theorem char_of_mem_payloadLine {piece : Bytes} (h : IsPiece piece) {c : Char}
    (hc : c ∈ payloadLine piece) : Text.isBlank c = false ∧ c ≠ '\n' ∧ c ≠ ':' ∧ c ≠ '-' := by
  obtain ⟨b, hb, rfl⟩ := List.mem_map.1 hc
  exact (h.2 b hb).char

theorem feed_not_mem_payloadLine {piece : Bytes} (h : IsPiece piece) :
    '\n' ∉ payloadLine piece :=
  fun hc => (char_of_mem_payloadLine h hc).2.1 rfl

/-! ## Reading a line -/

theorem advance_opening {label : List Char} (h : IsLabelText label) :
    Position.outside.advance (Boundary.opening label).line =
      .ok (.more (.inside label [] [])) := by
  have hline : Boundary.ofLine? (Boundary.opening label).line = some (.opening label) :=
    Boundary.ofLine?_eq_some_iff.2 ⟨rfl, h⟩
  unfold Position.advance
  dsimp only
  rw [Boundary.trim_line, hline]

theorem advance_closing {label : List Char} (h : IsLabelText label) (headers : Headers)
    (payload : List (List Char)) :
    (Position.inside label headers payload).advance (Boundary.closing label).line =
      closeBlock label headers payload := by
  have hline : Boundary.ofLine? (Boundary.closing label).line = some (.closing label) :=
    Boundary.ofLine?_eq_some_iff.2 ⟨rfl, h⟩
  unfold Position.advance
  dsimp only
  rw [Boundary.trim_line, hline]
  exact if_pos rfl

/-- A line inside a block that is no boundary. -/
theorem advance_content {line : List Char} (h : Boundary.ofLine? (Text.trim line) = none)
    (label : List Char) (headers : Headers) (payload : List (List Char)) :
    (Position.inside label headers payload).advance line =
      (readContent label headers payload (Text.trim line)).map .more := by
  unfold Position.advance
  dsimp only
  rw [h]

theorem advance_empty (label : List Char) (headers : Headers) (payload : List (List Char)) :
    (Position.inside label headers payload).advance [] =
      .ok (.more (.inside label headers payload)) :=
  advance_content rfl label headers payload

/-- The line of a header without the blanks at its end. -/
theorem trim_headerLine {header : Header} (h : header.IsPrintable) :
    Text.trim header.line =
      header.name.toList ++ ':' :: Text.trimEnd (' ' :: header.value.toList) := by
  obtain ⟨c, rest, hname⟩ := List.exists_cons_of_ne_nil h.name_ne_nil
  have hblank : Text.isBlank c = false := Text.isBlank_of_trim_cons (hname ▸ h.trim_name)
  have hstart : Text.trimStart header.line = header.line := by
    unfold Header.line
    rw [hname]
    exact Text.trimStart_cons hblank _
  rw [Text.trim_eq, hstart]
  exact Text.trimEnd_append_cons (by decide) _ _

theorem advance_header {header : Header} (h : header.IsPrintable) (label : List Char)
    (headers : Headers) (payload : List (List Char)) :
    (Position.inside label headers payload).advance header.line =
      .ok (.more (.inside label (header.trimmed :: headers) payload)) := by
  -- the colon tells the line of a header from a boundary
  have hnone : Boundary.ofLine? (Text.trim header.line) = none := by
    rw [trim_headerLine h]
    exact Boundary.ofLine?_of_mem (List.mem_append_right _ List.mem_cons_self) rfl (by decide)
  have hsplit : Text.splitAt? ':' (Text.trim header.line) =
      some (header.name.toList, Text.trimEnd (' ' :: header.value.toList)) := by
    rw [trim_headerLine h]
    exact Text.splitAt?_append h.colon_not_mem _
  have hne : (Text.trim header.line).isEmpty = false := by
    rw [trim_headerLine h]
    simp
  have hname : header.name.toList.isEmpty = false := by
    simpa using h.name_ne_nil
  have hvalue : Text.trim (Text.trimEnd (' ' :: header.value.toList)) =
      Text.trim header.value.toList := by
    rw [Text.trim_trimEnd, Text.trim_cons_of_blank (by decide)]
  have hheader : (⟨String.ofList header.name.toList,
      String.ofList (Text.trim header.value.toList)⟩ : Header) = header.trimmed := by
    rw [String.ofList_toList]
    rfl
  rw [advance_content hnone]
  unfold readContent
  rw [hne, hsplit]
  dsimp only
  rw [h.trim_name, hname, hvalue, hheader]
  rfl

theorem advance_payload {piece : Bytes} (h : IsPiece piece) (label : List Char)
    (headers : Headers) (payload : List (List Char)) :
    (Position.inside label headers payload).advance (payloadLine piece) =
      .ok (.more (.inside label headers (payloadLine piece :: payload))) := by
  have htrim : Text.trim (payloadLine piece) = payloadLine piece :=
    Text.trim_of_forall fun c hc => (char_of_mem_payloadLine h hc).1
  have hne : payloadLine piece ≠ [] := by
    unfold payloadLine
    simpa using h.1
  -- a piece has neither the dash of a boundary nor the colon of a header
  have hnone : Boundary.ofLine? (payloadLine piece) = none := by
    obtain ⟨c, rest, hline⟩ := List.exists_cons_of_ne_nil hne
    have hdash : c ≠ '-' := (char_of_mem_payloadLine h (hline ▸ List.mem_cons_self)).2.2.2
    rw [hline]
    exact Boundary.ofLine?_of_head hdash rest
  have hsplit : Text.splitAt? ':' (payloadLine piece) = none :=
    Text.splitAt?_of_not_mem fun hc => (char_of_mem_payloadLine h hc).2.2.1 rfl
  have hempty : (payloadLine piece).isEmpty = false := by
    simpa using hne
  rw [advance_content (by rwa [htrim]), htrim]
  unfold readContent
  rw [hempty, hsplit]
  rfl

/-! ## Reading the lines -/

theorem firstBlock_of_more {position next : Position} {line : List Char}
    (h : position.advance line = .ok (.more next)) (rest : List (List Char)) :
    firstBlock position (line :: rest) = firstBlock next rest := by
  rw [firstBlock, h]

theorem firstBlock_of_closed {position : Position} {line : List Char} {block : Block}
    (h : position.advance line = .ok (.closed block)) (rest : List (List Char)) :
    firstBlock position (line :: rest) = .ok block := by
  rw [firstBlock, h]

/-- Headers are read one by one. -/
theorem firstBlock_headers {headers : Headers} (h : ∀ header ∈ headers, header.IsPrintable)
    (label : List Char) (read : Headers) (payload : List (List Char))
    (rest : List (List Char)) :
    firstBlock (.inside label read payload) (headers.map Header.line ++ rest) =
      firstBlock (.inside label ((headers.map Header.trimmed).reverse ++ read) payload) rest := by
  -- headers are collected in front of those that were read before
  induction headers generalizing read with
  | nil => rfl
  | cons header headers ih =>
      have hfirst := h header List.mem_cons_self
      have hrest := ih fun other ho => h other (List.mem_cons_of_mem _ ho)
      rw [List.map_cons, List.cons_append, firstBlock_of_more (advance_header hfirst _ _ _), hrest,
        List.map_cons, List.reverse_cons, List.append_assoc]
      rfl

theorem firstBlock_headerLines {headers : Headers} (h : ∀ header ∈ headers, header.IsPrintable)
    (label : List Char) (rest : List (List Char)) :
    firstBlock (.inside label [] []) (headerLines headers ++ rest) =
      firstBlock (.inside label (headers.map Header.trimmed).reverse []) rest := by
  unfold headerLines
  by_cases hempty : headers = []
  · rw [hempty]
    rfl
  · rw [if_neg (by simpa using hempty), List.append_assoc, firstBlock_headers h, List.append_nil]
    exact firstBlock_of_more (advance_empty _ _ _) rest

theorem firstBlock_pieces {pieces : List Bytes} (h : ∀ piece ∈ pieces, IsPiece piece)
    (label : List Char) (headers : Headers) (payload : List (List Char))
    (rest : List (List Char)) :
    firstBlock (.inside label headers payload) (pieces.map payloadLine ++ rest) =
      firstBlock (.inside label headers ((pieces.map payloadLine).reverse ++ payload)) rest := by
  induction pieces generalizing payload with
  | nil => rfl
  | cons piece pieces ih =>
      have hfirst := h piece List.mem_cons_self
      have hrest := ih fun other ho => h other (List.mem_cons_of_mem _ ho)
      rw [List.map_cons, List.cons_append, firstBlock_of_more (advance_payload hfirst _ _ _), hrest,
        List.reverse_cons, List.append_assoc]
      rfl

/-- The lines of a block, opening and closing boundary included. -/
def blockLines (label : List Char) (headers : Headers) (pieces : List Bytes) :
    List (List Char) :=
  (Boundary.opening label).line :: (headerLines headers ++ pieces.map payloadLine)

theorem firstBlock_blockLines {label : Label} (hlabel : label.IsPrintable) {headers : Headers}
    (hheaders : ∀ header ∈ headers, header.IsPrintable) {pieces : List Bytes}
    (hpieces : ∀ piece ∈ pieces, IsPiece piece) (hne : pieces ≠ []) :
    firstBlock .outside (blockLines label.text.toList headers pieces ++
        [(Boundary.closing label.text.toList).line]) =
      .ok ⟨label, headers.map Header.trimmed, Text.Utf8.ascii pieces.flatten⟩ := by
  have hpayload : (pieces.map payloadLine).reverse.isEmpty = false := by
    simpa using hne
  have htext : String.ofList (pieces.map payloadLine).reverse.reverse.flatten =
      Text.Utf8.ascii pieces.flatten := by
    rw [List.reverse_reverse]
    unfold Text.Utf8.ascii
    rw [List.map_flatten]
    rfl
  have hclose : closeBlock label.text.toList (headers.map Header.trimmed).reverse
      (pieces.map payloadLine).reverse =
        .ok (.closed ⟨label, headers.map Header.trimmed, Text.Utf8.ascii pieces.flatten⟩) := by
    unfold closeBlock
    rw [hpayload, htext, String.ofList_toList, hlabel.ofText, List.reverse_reverse]
    rfl
  unfold blockLines
  rw [List.cons_append, firstBlock_of_more (advance_opening hlabel.text), List.append_assoc,
    firstBlock_headerLines hheaders, firstBlock_pieces hpieces, List.append_nil]
  apply firstBlock_of_closed
  rw [advance_closing hlabel.text, hclose]

/-! ## Printed texts -/

/-- The pieces that a payload is cut into. -/
def pieces (data : Bytes) : List Bytes :=
  Bytes.blocks Block.lineWidth (Text.Base64.encodeOctets data)

theorem flatten_pieces (data : Bytes) : (pieces data).flatten = Text.Base64.encodeOctets data :=
  Bytes.flatten_blocks (by decide) _

theorem pieces_ne_nil {data : Bytes} (h : data ≠ []) : pieces data ≠ [] := by
  intro hnil
  have hflat := flatten_pieces data
  rw [hnil] at hflat
  exact Text.Base64.encodeOctets_ne_nil h hflat.symm

theorem isPiece_of_mem_pieces {data piece : Bytes} (h : piece ∈ pieces data) : IsPiece piece := by
  constructor
  · exact Bytes.ne_nil_of_mem_blocks h
  · intro b hb
    apply Text.Base64.isWritten_of_mem_encodeOctets
    rw [← flatten_pieces]
    exact List.mem_flatten.2 ⟨piece, h, hb⟩

/-- Every piece of a payload is a text. -/
theorem payloadLines?_encode (data : Bytes) :
    Block.payloadLines? (Text.Base64.encode data) = some ((pieces data).map Text.Utf8.ascii) := by
  have hascii : ∀ piece ∈ pieces data, Text.Utf8.decode? piece = some (Text.Utf8.ascii piece) :=
    fun piece hp => Text.Utf8.decode?_of_ascii fun b hb => ((isPiece_of_mem_pieces hp).2 b hb).ascii
  unfold Block.payloadLines?
  rw [Text.Base64.utf8_encode]
  change (pieces data).mapM Text.Utf8.decode? = _
  generalize pieces data = all at hascii
  induction all with
  | nil => rfl
  | cons piece rest ih =>
      have hrest := ih fun other ho => hascii other (List.mem_cons_of_mem _ ho)
      rw [List.mapM_cons, hascii piece List.mem_cons_self, hrest]
      rfl

/-- The characters of the header lines. -/
theorem toList_headerText (headers : Headers) :
    (Block.headerText headers).toList = (headerLines headers).flatMap (· ++ ['\n']) := by
  have hline (header : Header) : (header.name ++ ": " ++ header.value ++ "\n").toList =
      header.line ++ ['\n'] := by
    have hmark : (": ").toList = [':', ' '] := rfl
    have hfeed : ("\n").toList = ['\n'] := rfl
    simp only [String.toList_append, hmark, hfeed, Header.line, List.append_assoc,
      List.cons_append, List.nil_append]
  have hfeed : ("\n").toList = ['\n'] := rfl
  unfold Block.headerText headerLines
  by_cases hempty : headers.isEmpty
  · rw [if_pos hempty, if_pos hempty]
    rfl
  · rw [if_neg hempty, if_neg hempty, String.toList_append, String.toList_join, List.flatMap_map,
      List.flatMap_append, List.flatMap_map, hfeed]
    simp only [hline]
    rfl

/-- The characters of a printed block: its lines, with a line feed after each but the last. -/
theorem toList_printed (label : Label) (headers : Headers) (pieces : List Bytes) :
    ("-----BEGIN " ++ label.text ++ "-----\n" ++ Block.headerText headers
        ++ String.join ((pieces.map Text.Utf8.ascii).map (· ++ "\n"))
        ++ "-----END " ++ label.text ++ "-----").toList =
      (blockLines label.text.toList headers pieces).flatMap (· ++ ['\n']) ++
        (Boundary.closing label.text.toList).line := by
  have hbegin : ("-----BEGIN ").toList = dashes ++ ['B', 'E', 'G', 'I', 'N', ' '] := rfl
  have hend : ("-----END ").toList = dashes ++ ['E', 'N', 'D', ' '] := rfl
  have hdashes : ("-----").toList = dashes := rfl
  have hdashesFeed : ("-----\n").toList = dashes ++ ['\n'] := rfl
  have hpieces : (String.join ((pieces.map Text.Utf8.ascii).map (· ++ "\n"))).toList =
      (pieces.map payloadLine).flatMap (· ++ ['\n']) := by
    have hfeed : ("\n").toList = ['\n'] := rfl
    rw [String.toList_join, List.map_map, List.flatMap_map, List.flatMap_map]
    simp only [Function.comp, String.toList_append, hfeed]
    congr 1
    funext piece
    unfold Text.Utf8.ascii
    rw [String.toList_ofList]
    rfl
  simp only [String.toList_append, hbegin, hend, hdashes, hdashesFeed, hpieces, toList_headerText,
    blockLines, Boundary.line, List.flatMap_cons, List.flatMap_append, List.append_assoc]

/-! ## Main result -/

theorem feed_not_mem_of_mem_blockLines {label : List Char} (hlabel : IsLabelText label)
    {headers : Headers} (hheaders : ∀ header ∈ headers, header.IsPrintable) {pieces : List Bytes}
    (hpieces : ∀ piece ∈ pieces, IsPiece piece) {line : List Char}
    (h : line ∈ blockLines label headers pieces) : '\n' ∉ line := by
  have hheader (header : Header) (hh : header.IsPrintable) : '\n' ∉ header.line := by
    intro hmem
    simp only [Header.line, List.mem_append, List.mem_cons] at hmem
    rcases hmem with hname | hcolon | hspace | hvalue
    · exact hh.feed_not_mem_name hname
    · exact absurd hcolon (by decide)
    · exact absurd hspace (by decide)
    · exact hh.feed_not_mem_value hvalue
  simp only [blockLines, List.mem_cons, List.mem_append, List.mem_map] at h
  rcases h with rfl | h | ⟨piece, hp, rfl⟩
  · exact Boundary.not_mem_line (b := .opening label) hlabel rfl (by decide)
  · unfold headerLines at h
    split at h
    · cases h
    · rcases List.mem_append.1 h with h | h
      · obtain ⟨header, hh, rfl⟩ := List.mem_map.1 h
        exact hheader header (hheaders header hh)
      · rw [List.mem_singleton.1 h]
        exact List.not_mem_nil
  · exact feed_not_mem_payloadLine (hpieces piece hp)

/-- A printable block that carries a byte string has a text, which is read as that block. -/
theorem Block.ofText_of_print? {label : Label} (hlabel : label.IsPrintable) {headers : Headers}
    (hheaders : ∀ header ∈ headers, header.IsPrintable) {data : Bytes} (hdata : data ≠ []) :
    ∃ text, Block.print? ⟨label, headers, Text.Base64.encode data⟩ = some text ∧
      Block.ofText text =
        .ok ⟨label, headers.map Header.trimmed, Text.Base64.encode data⟩ := by
  refine ⟨_, congrArg (Option.map _) (payloadLines?_encode data), ?_⟩
  have hpieces : ∀ piece ∈ pieces data, IsPiece piece := fun piece => isPiece_of_mem_pieces
  have hclosing : '\n' ∉ (Boundary.closing label.text.toList).line :=
    Boundary.not_mem_line (b := .closing _) hlabel.text rfl (by decide)
  have hfeeds : ∀ line ∈ blockLines label.text.toList headers (pieces data), '\n' ∉ line :=
    fun _ => feed_not_mem_of_mem_blockLines hlabel.text hheaders hpieces
  have hlines := Text.lines_flatMap_append hfeeds hclosing
  have hread := firstBlock_blockLines hlabel hheaders hpieces (pieces_ne_nil hdata)
  rw [flatten_pieces] at hread
  unfold Block.ofText
  rw [toList_printed, hlines, hread]
  rfl

/-- What a block carries is found again in its payload. -/
theorem Block.decode_encode (label : Label) (headers : Headers) (data : Bytes) :
    Block.decode ⟨label, headers, Text.Base64.encode data⟩ = .ok data := by
  unfold Block.decode
  rw [Text.Base64.utf8_encode, Text.Base64.decodeOctets_encodeOctets]
  rfl

end Credential.Pem
