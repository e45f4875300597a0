import Credential.Proofs.Pem.Joining
import Credential.Proofs.Pem.Printing

/-!
# Texts of blocks without headers

The text of a block that was made of a byte string holds this block and no other
(`blocksOfText_ofBytes`), and such texts can be put side by side or on lines of their own
(`blocksOfText_printed`). A printed line has no run of ten dashes, so that separating the boundaries
of a whole text leaves it as it is.
-/

namespace Credential.Pem

/-! ## Separating the boundaries of printed lines -/

/-- Five dashes at either end of other characters. -/
theorem separateBoundaries_framed {c : Char} {cs : List Char} (hc : c ≠ '-') (hcs : '-' ∉ cs) :
    separateBoundaries (dashes ++ c :: (cs ++ dashes)) = dashes ++ c :: (cs ++ dashes) := by
  rw [separateBoundaries_append hc, separateBoundaries_append_left hcs]
  rfl

theorem separateBoundaries_line {b : Boundary} (h : IsLabelText b.label) :
    separateBoundaries b.line = b.line := by
  have hlabel : '-' ∉ b.label := fun hmem => absurd (h.2 '-' hmem) (by decide)
  cases b with
  | opening label =>
      have hcs : '-' ∉ ['E', 'G', 'I', 'N', ' '] ++ label :=
        List.not_mem_append (by decide) hlabel
      have hline := separateBoundaries_framed (by decide : 'B' ≠ '-') hcs
      simpa [Boundary.line] using hline
  | closing label =>
      have hcs : '-' ∉ ['N', 'D', ' '] ++ label := List.not_mem_append (by decide) hlabel
      have hline := separateBoundaries_framed (by decide : 'E' ≠ '-') hcs
      simpa [Boundary.line] using hline

theorem separateBoundaries_lines {lines : List (List Char)} {last : List Char}
    (h : ∀ line ∈ lines, separateBoundaries line = line) (hlast : separateBoundaries last = last) :
    separateBoundaries (lines.flatMap (· ++ ['\n']) ++ last) =
      lines.flatMap (· ++ ['\n']) ++ last := by
  induction lines with
  | nil => exact hlast
  | cons line lines ih =>
      rw [Text.written_cons, separateBoundaries_append (by decide), h line List.mem_cons_self,
        ih fun other ho => h other (List.mem_cons_of_mem _ ho)]

/-! ## All blocks after the first one -/

/-- The first block ends somewhere in the lines. What comes after it does not matter to it, and all
blocks of the lines are this block and those of the lines after it. -/
theorem exists_split_of_firstBlock {position : Position} {lines : List (List Char)} {block : Block}
    (h : firstBlock position lines = .ok block) :
    ∃ read rest, read ≠ [] ∧ lines = read ++ rest ∧
      allBlocks position lines = (allBlocks .outside rest).map (block :: ·) ∧
      ∀ others, firstBlock position (read ++ others) = .ok block := by
  induction lines generalizing position with
  | nil => cases h
  | cons line lines ih =>
      rw [firstBlock] at h
      cases hadvance : position.advance line with
      | error cause =>
          rw [hadvance] at h
          cases h
      | ok progress =>
          rw [hadvance] at h
          cases progress with
          | closed found =>
              cases h
              refine ⟨[line], lines, List.cons_ne_nil _ _, rfl, ?_, fun others => ?_⟩
              · rw [allBlocks, hadvance]
              · exact firstBlock_of_closed hadvance _
          | more next =>
              obtain ⟨read, rest, -, rfl, hall, hfirst⟩ := ih h
              refine ⟨line :: read, rest, List.cons_ne_nil _ _, rfl, ?_, fun others => ?_⟩
              · rw [allBlocks, hadvance]
                exact hall
              · rw [List.cons_append, firstBlock_of_more hadvance]
                exact hfirst others

/-- A block is open until its closing boundary. -/
theorem firstBlock_blockLines_open {label : Label} (hlabel : label.IsPrintable) {headers : Headers}
    (hheaders : ∀ header ∈ headers, header.IsPrintable) {pieces : List Bytes}
    (hpieces : ∀ piece ∈ pieces, IsPiece piece) :
    firstBlock .outside (blockLines label.text.toList headers pieces) = .error .missingEnd := by
  have hread := firstBlock_pieces hpieces label.text.toList (headers.map Header.trimmed).reverse
    [] []
  rw [List.append_nil, List.append_nil] at hread
  unfold blockLines
  rw [firstBlock_of_more (advance_opening hlabel.text), firstBlock_headerLines hheaders, hread]
  rfl

/-- The lines of a block hold this block and no other. -/
theorem allBlocks_blockLines {label : Label} (hlabel : label.IsPrintable) {headers : Headers}
    (hheaders : ∀ header ∈ headers, header.IsPrintable) {pieces : List Bytes}
    (hpieces : ∀ piece ∈ pieces, IsPiece piece) (hne : pieces ≠ []) :
    allBlocks .outside (blockLines label.text.toList headers pieces ++
        [(Boundary.closing label.text.toList).line]) =
      .ok [⟨label, headers.map Header.trimmed, Text.Utf8.ascii pieces.flatten⟩] := by
  obtain ⟨read, rest, -, hlines, hall, hfirst⟩ :=
    exists_split_of_firstBlock (firstBlock_blockLines hlabel hheaders hpieces hne)
  rcases List.eq_nil_or_concat rest with rfl | ⟨front, last, rfl⟩
  · rw [hall]
    rfl
  · -- otherwise the block would have ended before its closing boundary
    rw [List.concat_eq_append, ← List.append_assoc] at hlines
    obtain ⟨hfront, -⟩ := List.append_inj' hlines rfl
    have hopen := firstBlock_blockLines_open hlabel hheaders hpieces
    rw [hfront, hfirst front] at hopen
    cases hopen

/-! ## Printed blocks -/

/-- The text of a block that was made of a byte string: it holds this block, and it begins and ends
with the boundaries of the block. -/
theorem blocksOfText_ofBytes {label : Label} (hlabel : label.IsPrintable) {data : Bytes}
    (hdata : data ≠ []) :
    ∃ text, (Block.ofBytes label data).print? = some text ∧
      blocksOfText text = .ok [Block.ofBytes label data] ∧
      EndsInClosing text ∧ BeginsWithOpening text := by
  obtain ⟨text, hprint, hprinted⟩ : ∃ text, (Block.ofBytes label data).print? = some text ∧
      text.toList = (blockLines label.text.toList [] (pieces data)).flatMap (· ++ ['\n']) ++
        (Boundary.closing label.text.toList).line :=
    ⟨_, congrArg (Option.map _) (payloadLines?_encode data), toList_printed label [] (pieces data)⟩
  have hnone : ∀ header ∈ ([] : Headers), header.IsPrintable := fun header h => by cases h
  have hpieces : ∀ piece ∈ pieces data, IsPiece piece := fun piece => isPiece_of_mem_pieces
  have hclosing : '\n' ∉ (Boundary.closing label.text.toList).line :=
    Boundary.not_mem_line (b := .closing _) hlabel.text rfl (by decide)
  have hfeeds : ∀ line ∈ blockLines label.text.toList [] (pieces data), '\n' ∉ line :=
    fun _ => feed_not_mem_of_mem_blockLines hlabel.text hnone hpieces
  have hseparate : ∀ line ∈ blockLines label.text.toList [] (pieces data),
      separateBoundaries line = line := by
    refine List.forall_mem_cons.2 ⟨separateBoundaries_line (b := .opening _) hlabel.text, ?_⟩
    intro line hline
    obtain ⟨piece, hpiece, rfl⟩ := List.mem_map.1 hline
    have hdash : '-' ∉ payloadLine piece :=
      fun hmem => (char_of_mem_payloadLine (hpieces piece hpiece) hmem).2.2.2 rfl
    exact separateBoundaries_append_right hdash []
  have hseparateLast : separateBoundaries (Boundary.closing label.text.toList).line =
      (Boundary.closing label.text.toList).line :=
    separateBoundaries_line hlabel.text
  have hlines := Text.lines_flatMap_append hfeeds hclosing
  refine ⟨text, hprint, ?_, ?_, ?_⟩
  · apply blocksOfText_eq_ok_iff.2
    unfold separatedLines
    rw [hprinted, separateBoundaries_lines hseparate hseparateLast, hlines,
      allBlocks_blockLines hlabel hnone hpieces (pieces_ne_nil hdata), flatten_pieces]
    exact ⟨rfl, List.cons_ne_nil _ _⟩
  · refine ⟨label.text.toList, hlabel.text, ?_⟩
    rw [hprinted, hlines, List.getLast?_concat]
  · unfold BeginsWithOpening
    rw [hprinted]
    unfold blockLines Boundary.line
    rw [List.flatMap_cons]
    simp only [List.append_assoc]
    exact List.prefix_append _ _

theorem join_cons (s : String) (ss : List String) :
    String.join (s :: ss) = s ++ String.join ss := by
  apply String.toList_inj.1
  rw [String.toList_append, String.toList_join, String.toList_join, List.flatMap_cons]

/-- The texts of blocks, side by side or each with a line feed after it, hold these blocks in
order. -/
theorem blocksOfText_printed {label : Label} (hlabel : label.IsPrintable) {all : List Bytes}
    (hne : all ≠ []) (hdata : ∀ data ∈ all, data ≠ []) :
    ∃ texts, all.mapM (fun data => (Block.ofBytes label data).print?) = some texts ∧
      ∀ gap, gap = "" ∨ gap = "\n" →
        blocksOfText (String.join (texts.map (· ++ gap))) = .ok (all.map (Block.ofBytes label)) ∧
        BeginsWithOpening (String.join (texts.map (· ++ gap))) := by
  induction all with
  | nil => exact absurd rfl hne
  | cons data all ih =>
      obtain ⟨hfirst, hothers⟩ := List.forall_mem_cons.1 hdata
      obtain ⟨text, hprint, hblocks, hclosing, hopening⟩ := blocksOfText_ofBytes hlabel hfirst
      obtain ⟨hjoin, hmissing, -⟩ := blocksOfText_append text "" hblocks
      have hbegins (gap : String) (texts : List String) :
          BeginsWithOpening (String.join ((text :: texts).map (· ++ gap))) := by
        unfold BeginsWithOpening
        rw [List.map_cons, join_cons, String.toList_append, String.toList_append, List.append_assoc]
        exact hopening.trans (List.prefix_append _ _)
      by_cases hlast : all = []
      · subst hlast
        refine ⟨[text], by simp [hprint], fun gap hgap => ⟨?_, hbegins gap []⟩⟩
        rw [List.map_cons, join_cons]
        rcases hgap with rfl | rfl
        · simpa [String.join] using hblocks
        · simpa [String.join] using hmissing rfl
      · obtain ⟨texts, htexts, hread⟩ := ih hlast hothers
        refine ⟨text :: texts, by simp [hprint, htexts], fun gap hgap => ⟨?_, hbegins gap texts⟩⟩
        obtain ⟨hrest, hrestOpening⟩ := hread gap hgap
        have happend := (blocksOfText_append text _ hblocks).1 _ hrest
        rw [List.map_cons, join_cons]
        rcases hgap with rfl | rfl
        · rw [String.append_empty]
          exact happend.2 hclosing hrestOpening
        · exact happend.1

end Credential.Pem
