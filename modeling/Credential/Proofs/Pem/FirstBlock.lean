import Credential.Proofs.Pem.Grammar
import Credential.Proofs.Pem.PrintedBlock

/-!
# The first block among all blocks

`blocksOfText` reads a text after a line feed was put into every run of ten dashes, and
`Block.ofText` reads it as it stands. The line feeds cut some of the lines
(`map_trim_separatedLines`), and the parts of a line make up the line again (`flatten_cut`). So
nothing of a payload gets lost, and lines before the block and after it may be cut anyhow: both
readers find the same block as long as no line is cut into a boundary and no header is cut
(`head_of_blocksOfText`).

Boundaries that stand side by side on one line are boundaries only to `blocksOfText`, which is what
the line feeds are for (`side_by_side_boundaries_differ`).
-/

namespace Credential.Pem

/-! ## Parts of a line -/

/-- The parts of a line between the line feeds that are put into its runs of ten dashes. -/
def cut (line : List Char) : List (List Char) :=
  (Text.lines (separateBoundaries line)).map Text.trim

/-- A line without a run of ten dashes has one part. -/
theorem cut_of_separateBoundaries_eq {line : List Char} (h : separateBoundaries line = line)
    (htrim : Text.trim line = line) (hfeed : '\n' ∉ line) : cut line = [line] := by
  unfold cut
  rw [h, Text.lines_of_not_mem hfeed, List.map_singleton, htrim]

theorem cut_boundary {b : Boundary} (h : IsLabelText b.label) : cut b.line = [b.line] :=
  cut_of_separateBoundaries_eq (separateBoundaries_line h) b.trim_line
    (Boundary.not_mem_line h rfl (by decide))

theorem not_mem_of_blanks {blanks : List Char} (h : ∀ c ∈ blanks, Text.isBlank c = true) :
    '-' ∉ blanks :=
  fun hmem => absurd (h '-' hmem) (by decide)

/-- Blanks before a line do not count. -/
theorem cut_blanks_append {blanks : List Char} (h : ∀ c ∈ blanks, Text.isBlank c = true)
    (hfeed : '\n' ∉ blanks) (line : List Char) : cut (blanks ++ line) = cut line := by
  unfold cut
  rw [separateBoundaries_append_left (not_mem_of_blanks h)]
  obtain ⟨first, rest, hlines⟩ :=
    List.exists_cons_of_ne_nil (Text.lines_ne_nil (separateBoundaries line))
  rw [Text.lines_append_of_not_mem hfeed hlines, hlines, List.map_cons, List.map_cons,
    Text.trim_blanks_append h]

/-- Blanks after a line do not count. -/
theorem cut_append_blanks {blanks : List Char} (h : ∀ c ∈ blanks, Text.isBlank c = true)
    (hfeed : '\n' ∉ blanks) (line : List Char) : cut (line ++ blanks) = cut line := by
  unfold cut
  rw [separateBoundaries_append_right (not_mem_of_blanks h)]
  generalize separateBoundaries line = cs
  obtain ⟨written, last, hlines, hcs⟩ := Text.exists_written_lines cs
  have hfeeds : ∀ line ∈ written ++ [last], '\n' ∉ line :=
    fun line hline => Text.feed_not_mem_of_mem_lines (hlines ▸ hline)
  have hwritten : ∀ line ∈ written, '\n' ∉ line :=
    fun line hline => hfeeds line (List.mem_append_left _ hline)
  have hlast : '\n' ∉ last ++ blanks :=
    List.not_mem_append (hfeeds last (by simp)) hfeed
  have hmore : Text.lines (cs ++ blanks) = written ++ [last ++ blanks] := by
    rw [hcs, List.append_assoc, Text.lines_flatMap_append hwritten hlast]
  rw [hmore, hlines, List.map_append, List.map_append, List.map_singleton, List.map_singleton,
    Text.trim_append_blanks h]

theorem cut_trim {line : List Char} (hfeed : '\n' ∉ line) : cut (Text.trim line) = cut line := by
  obtain ⟨lead, trail, hlead, htrail, hline⟩ := Text.exists_blanks_around line
  have hfeeds := hfeed
  rw [hline, List.mem_append, List.mem_append, not_or, not_or] at hfeeds
  obtain ⟨⟨hfeedLead, -⟩, hfeedTrail⟩ := hfeeds
  calc cut (Text.trim line)
      = cut (lead ++ Text.trim line) := (cut_blanks_append hlead hfeedLead _).symm
    _ = cut (lead ++ Text.trim line ++ trail) := (cut_append_blanks htrail hfeedTrail _).symm
    _ = cut line := by rw [← hline]

/-- The parts of a run meet in dashes, where trimming takes nothing away. -/
theorem trim_append_joint (lead cs : List Char) : Text.trim (lead ++ (joint ++ cs)) =
    Text.trim (lead ++ dashes) ++ Text.trim (dashes ++ cs) := by
  have hdash : Text.isBlank '-' = false := by decide
  have hends := Text.trim_append_of_ends hdash hdash (lead ++ ['-', '-', '-', '-'])
    (['-', '-', '-', '-'] ++ cs)
  simpa [joint, dashes] using hends

/-- The parts of a line, with something that stands before them, make up the whole. -/
theorem flatten_parts {line lead : List Char} (hfeed : '\n' ∉ line) (hlead : '\n' ∉ lead) :
    ((Text.lines (lead ++ separateBoundaries line)).map Text.trim).flatten =
      Text.trim (lead ++ line) := by
  -- the induction is over the runs of the line; what was passed goes to the front
  induction line using separateBoundaries.induct generalizing lead with
  | case1 cs ih =>
      have hdashes : '\n' ∉ dashes := by decide
      have hcs : '\n' ∉ cs := fun hmem => hfeed (by simp [hmem])
      have hfirst : '\n' ∉ lead ++ dashes := List.not_mem_append hlead hdashes
      have hcut : lead ++ (dashes ++ '\n' :: dashes ++ separateBoundaries cs) =
          (lead ++ dashes) ++ '\n' :: (dashes ++ separateBoundaries cs) := by
        simp
      change ((Text.lines (lead ++ (dashes ++ '\n' :: dashes ++ separateBoundaries cs))).map
        Text.trim).flatten = Text.trim (lead ++ (joint ++ cs))
      rw [hcut, Text.lines_append_feed hfirst, List.map_cons, List.flatten_cons, ih hcs hdashes,
        trim_append_joint]
  | case2 c cs hrun ih =>
      obtain ⟨hc, hcs⟩ := not_or.1 (mt List.mem_cons.2 hfeed)
      have hmore : '\n' ∉ lead ++ [c] := List.not_mem_append hlead (by simpa using hc)
      have hstep : separateBoundaries (c :: cs) = c :: separateBoundaries cs := by
        rw [separateBoundaries]
        exact hrun
      rw [hstep, List.append_cons, ih hcs hmore, ← List.append_cons]
  | case3 =>
      rw [separateBoundaries, List.append_nil, Text.lines_of_not_mem hlead]
      simp

/-- The parts of a line make up the line. -/
theorem flatten_cut {line : List Char} (hfeed : '\n' ∉ line) :
    (cut line).flatten = Text.trim line :=
  flatten_parts hfeed List.not_mem_nil

theorem map_trim_lines_separateBoundaries (cs : List Char) :
    (Text.lines (separateBoundaries cs)).map Text.trim = (Text.lines cs).flatMap cut := by
  obtain ⟨written, last, hlines, hcs⟩ := Text.exists_written_lines cs
  rw [hlines, hcs]
  clear hlines hcs
  induction written with
  | nil => exact (List.append_nil _).symm
  | cons line written ih =>
      rw [Text.written_cons, separateBoundaries_append (by decide), Text.lines_append,
        List.map_append, ih]
      rfl

/-- The lines with separated boundaries are the parts of the lines. -/
theorem map_trim_separatedLines (s : String) :
    (separatedLines s).map Text.trim = (trimmedLines s).flatMap cut := by
  unfold separatedLines trimmedLines
  rw [map_trim_lines_separateBoundaries, List.flatMap_map, List.flatMap_def, List.flatMap_def]
  exact congrArg List.flatten
    (List.map_congr_left fun line hline => (cut_trim (Text.feed_not_mem_of_mem_lines hline)).symm)

/-! ## Frames with cut lines -/

/-- Whether none of the lines is a boundary. -/
def BoundsNone (lines : List (List Char)) : Prop :=
  ∀ b : Boundary, IsLabelText b.label → b.line ∉ lines

theorem boundsNone_iff {lines : List (List Char)} :
    BoundsNone lines ↔ ∀ line ∈ lines, Boundary.ofLine? line = none := by
  constructor
  · intro h line hline
    rw [Option.eq_none_iff_forall_ne_some]
    intro b hb
    obtain ⟨rfl, hlabel⟩ := Boundary.ofLine?_eq_some_iff.1 hb
    exact h b hlabel hline
  · intro h b hlabel hmem
    have hsome := Boundary.ofLine?_eq_some_iff.2 ⟨rfl, hlabel⟩
    rw [h _ hmem] at hsome
    cases hsome

instance : DecidablePred BoundsNone := fun _ => decidable_of_iff _ boundsNone_iff.symm

theorem BoundsNone.opensNone {lines : List (List Char)} (h : BoundsNone lines) : OpensNone lines :=
  fun label => h (.opening label)

/-- A line as it stands between two line feeds, without blanks around it. -/
structure IsTrimmedLine (line : List Char) : Prop where
  trim : Text.trim line = line
  feed_not_mem : '\n' ∉ line

theorem isTrimmedLine_of_mem_trimmedLines {s : String} :
    ∀ line ∈ trimmedLines s, IsTrimmedLine line := by
  intro line hline
  refine ⟨trim_of_mem_trimmedLines line hline, ?_⟩
  obtain ⟨raw, hraw, rfl⟩ := List.mem_map.1 hline
  exact fun hmem => Text.feed_not_mem_of_mem_lines hraw (Text.mem_of_mem_trim hmem)

/-- Separating the boundaries of a line neither gives a boundary nor cuts a header. -/
def KeepsContent (line : List Char) : Prop :=
  joint <:+: line → ':' ∉ line ∧ BoundsNone (cut line)

/-- Separating the boundaries changes neither where the block of the frame begins and ends nor its
headers. -/
structure Frame.IsUnaffected (frame : Frame) : Prop where
  before : OpensNone (frame.before.flatMap cut)
  body : ∀ line ∈ frame.body, KeepsContent line

variable {line : List Char} {body : List (List Char)}

theorem cut_of_not_joint (hline : IsTrimmedLine line) (h : ¬ joint <:+: line) : cut line = [line] :=
  cut_of_separateBoundaries_eq (separateBoundaries_of_not_joint h) hline.trim hline.feed_not_mem

theorem flatten_cut_of_isTrimmedLine (hline : IsTrimmedLine line) : (cut line).flatten = line :=
  (flatten_cut hline.feed_not_mem).trans hline.trim

/-- A boundary among the parts of a line is the line itself. -/
theorem eq_of_mem_cut (hline : IsTrimmedLine line) (hkeeps : KeepsContent line) {b : Boundary}
    (hb : IsLabelText b.label) (hmem : b.line ∈ cut line) : b.line = line := by
  by_cases hjoint : joint <:+: line
  · exact absurd hmem ((hkeeps hjoint).2 b hb)
  · rw [cut_of_not_joint hline hjoint] at hmem
    exact List.mem_singleton.1 hmem

theorem propertyLines_eq_nil {lines : List (List Char)} (h : ':' ∉ lines.flatten) :
    propertyLines lines = [] := by
  refine List.filter_eq_nil_iff.2 fun line hline => ?_
  have hcolon : ':' ∉ line := fun hmem => h (List.mem_flatten_of_mem hline hmem)
  simp [hcolon]

/-- Without headers and boundaries all of the lines are payload. -/
theorem flatten_payloadLines {lines : List (List Char)} (h : ':' ∉ lines.flatten)
    (hnone : BoundsNone lines) : (payloadLines lines).flatten = lines.flatten := by
  have hfilter : payloadLines lines = lines.filter (· ≠ []) := by
    refine List.filter_congr fun line hline => ?_
    have hcolon : ':' ∉ line := fun hmem => h (List.mem_flatten_of_mem hline hmem)
    have hboundary : ∀ b : Boundary, IsLabelText b.label → line ≠ b.line :=
      fun b hb heq => hnone b hb (heq ▸ hline)
    simp only [hcolon, not_false_eq_true, and_true, decide_eq_decide]
    exact ⟨fun hcontent => hcontent.1, fun hne => ⟨hne, hboundary⟩⟩
  rw [hfilter]
  exact List.flatten_filter_ne_nil

theorem propertyLines_cut (hline : IsTrimmedLine line) (hkeeps : KeepsContent line) :
    propertyLines (cut line) = propertyLines [line] := by
  by_cases hjoint : joint <:+: line
  · obtain ⟨hcolon, -⟩ := hkeeps hjoint
    rw [propertyLines_eq_nil, propertyLines_eq_nil]
    · simpa using hcolon
    · rwa [flatten_cut_of_isTrimmedLine hline]
  · rw [cut_of_not_joint hline hjoint]

theorem flatten_payloadLines_cut (hline : IsTrimmedLine line) (hkeeps : KeepsContent line) :
    (payloadLines (cut line)).flatten = (payloadLines [line]).flatten := by
  by_cases hjoint : joint <:+: line
  · obtain ⟨hcolon, hnone⟩ := hkeeps hjoint
    have hself : BoundsNone [line] := by
      intro b hb hmem
      obtain rfl := List.mem_singleton.1 hmem
      exact hnone b hb (by rw [cut_boundary hb]; exact hmem)
    rw [flatten_payloadLines _ hnone, flatten_payloadLines _ hself,
      flatten_cut_of_isTrimmedLine hline]
    · simp
    · simpa using hcolon
    · rwa [flatten_cut_of_isTrimmedLine hline]
  · rw [cut_of_not_joint hline hjoint]

/-- The headers of a block are those of its parts. -/
theorem propertyLines_flatMap_cut (hlines : ∀ line ∈ body, IsTrimmedLine line)
    (hkeeps : ∀ line ∈ body, KeepsContent line) :
    propertyLines (body.flatMap cut) = propertyLines body := by
  induction body with
  | nil => rfl
  | cons line body ih =>
      obtain ⟨hline, hlines⟩ := List.forall_mem_cons.1 hlines
      obtain ⟨hfirst, hkeeps⟩ := List.forall_mem_cons.1 hkeeps
      calc propertyLines (cut line ++ body.flatMap cut)
          = propertyLines (cut line) ++ propertyLines (body.flatMap cut) := List.filter_append ..
        _ = propertyLines [line] ++ propertyLines body := by
            rw [propertyLines_cut hline hfirst, ih hlines hkeeps]
        _ = propertyLines (line :: body) := (List.filter_append ..).symm

/-- The payload of a block is that of its parts. -/
theorem flatten_payloadLines_flatMap_cut (hlines : ∀ line ∈ body, IsTrimmedLine line)
    (hkeeps : ∀ line ∈ body, KeepsContent line) :
    (payloadLines (body.flatMap cut)).flatten = (payloadLines body).flatten := by
  have happend (xs ys : List (List Char)) : (payloadLines (xs ++ ys)).flatten =
      (payloadLines xs).flatten ++ (payloadLines ys).flatten := by
    unfold payloadLines
    rw [List.filter_append, List.flatten_append]
  induction body with
  | nil => rfl
  | cons line body ih =>
      obtain ⟨hline, hlines⟩ := List.forall_mem_cons.1 hlines
      obtain ⟨hfirst, hkeeps⟩ := List.forall_mem_cons.1 hkeeps
      rw [List.flatMap_cons, happend, flatten_payloadLines_cut hline hfirst, ih hlines hkeeps,
        ← happend, List.singleton_append]

namespace Frame

/-- The frame of the parts of its lines. -/
def separated (frame : Frame) (hlines : ∀ line ∈ frame.body, IsTrimmedLine line)
    (h : frame.IsUnaffected) : Frame where
  before := frame.before.flatMap cut
  label := frame.label
  body := frame.body.flatMap cut
  after := frame.after.map (·.flatMap cut)
  isLabelText := frame.isLabelText
  opensNone := h.before
  closing_not_mem := by
    intro hmem
    obtain ⟨line, hline, hpart⟩ := List.mem_flatMap.1 hmem
    have heq := eq_of_mem_cut (hlines line hline) (h.body line hline) (b := .closing _)
      frame.isLabelText hpart
    exact frame.closing_not_mem (heq ▸ hline)

variable {frame : Frame} (hlines : ∀ line ∈ frame.body, IsTrimmedLine line)
  (h : frame.IsUnaffected)

theorem lines_separated : (frame.separated hlines h).lines = frame.lines.flatMap cut := by
  have hopening : cut (Boundary.opening frame.label).line = [(Boundary.opening frame.label).line] :=
    cut_boundary (b := .opening _) frame.isLabelText
  have hclosing : cut (Boundary.closing frame.label).line = [(Boundary.closing frame.label).line] :=
    cut_boundary (b := .closing _) frame.isLabelText
  have hending : (frame.separated hlines h).ending = frame.ending.flatMap cut := by
    unfold ending separated
    cases frame.after with
    | none => rfl
    | some rest =>
        dsimp only [Option.map_some]
        rw [List.flatMap_cons, hclosing]
        rfl
  unfold lines
  rw [hending, List.flatMap_append, List.flatMap_cons, List.flatMap_append, hopening]
  rfl

/-- A block is found again between its parts. -/
theorem result_separated {block : Block} (hblock : frame.result = .ok block) :
    (frame.separated hlines h).result = .ok block := by
  obtain ⟨hnames, hclosed, hpayload, rfl⟩ := result_eq_ok_iff.1 hblock
  have hproperties := propertyLines_flatMap_cut hlines h.body
  have hflatten := flatten_payloadLines_flatMap_cut hlines h.body
  refine result_eq_ok_iff.2 ⟨?_, ?_, ?_, ?_⟩
  · change ∀ line ∈ propertyLines (frame.body.flatMap cut), nameOf line ≠ []
    rwa [hproperties]
  · simpa [separated] using hclosed
  · -- a line of payload is not empty, so something of it is left
    intro hnil
    change payloadLines (frame.body.flatMap cut) = [] at hnil
    obtain ⟨first, hfirst⟩ := List.exists_mem_of_ne_nil _ hpayload
    have hcontent : IsContent first := (of_decide_eq_true (List.mem_filter.1 hfirst).2).1
    rw [hnil, List.flatten_nil] at hflatten
    exact hcontent.1 (List.flatten_eq_nil_iff.1 hflatten.symm first hfirst)
  · unfold Frame.block separated
    dsimp only
    rw [hproperties, hflatten]

end Frame

/-! ## Main result -/

/-- The blocks of the lines of a frame with a block begin with that block. -/
theorem Frame.head_of_allBlocks {frame : Frame}
    (htrim : ∀ line ∈ frame.lines, Text.trim line = line) {block : Block}
    (hblock : frame.result = .ok block) {blocks : List Block}
    (hall : allBlocks .outside frame.lines = .ok blocks) : blocks.head? = some block := by
  rw [allBlocks_eq, nextBlock_frame htrim, hblock] at hall
  obtain ⟨others, -, rfl⟩ := map_eq_ok_iff.1 hall
  rfl

/-- If a text has a first block, and blocks when boundaries may stand side by side, the first of
these is the first block, provided that separating the boundaries makes no boundary of a part of a
line up to the end of the first block and cuts none of its headers. -/
theorem head_of_blocksOfText {s : String} {block : Block} {blocks : List Block}
    (hfirst : Block.ofText s = .ok block) (hall : blocksOfText s = .ok blocks) {frame : Frame}
    (hframe : frame.lines = trimmedLines s) (h : frame.IsUnaffected) :
    blocks.head? = some block := by
  have hlines : ∀ line ∈ frame.body, IsTrimmedLine line := by
    intro line hline
    apply isTrimmedLine_of_mem_trimmedLines (s := s)
    rw [← hframe]
    exact List.mem_append_right _ (List.mem_cons_of_mem _ (List.mem_append_left _ hline))
  have hresult : frame.result = .ok block := by
    have htrim : ∀ line ∈ frame.lines, Text.trim line = line := hframe ▸ trim_of_mem_trimmedLines
    rw [← firstBlock_of_readsFirst htrim (.framed frame), hframe]
    exact (firstBlock_map_trim _ _).trans hfirst
  -- the parts of the lines have a frame of their own, with the same block
  have hseparated : (frame.separated hlines h).lines = (separatedLines s).map Text.trim := by
    rw [Frame.lines_separated, hframe, map_trim_separatedLines]
  have htrim : ∀ line ∈ (frame.separated hlines h).lines, Text.trim line = line := by
    intro line hline
    rw [hseparated] at hline
    obtain ⟨raw, -, rfl⟩ := List.mem_map.1 hline
    exact Text.trim_trim raw
  apply Frame.head_of_allBlocks htrim (Frame.result_separated hlines h hresult)
  rw [hseparated, allBlocks_map_trim]
  exact (blocksOfText_eq_ok_iff.1 hall).1

/-- A text with runs of ten dashes before a block, in its payload and after it. -/
def dashedText : String :=
  "x----------y\n-----BEGIN A-----\nN: v\nAQ----------ID\n-----END A-----\n" ++
    "z----------BEGIN B"

/-- The frame of its block. -/
def dashedFrame : Frame where
  before := ["x----------y".toList]
  label := ['A']
  body := ["N: v".toList, "AQ----------ID".toList]
  after := some ["z----------BEGIN B".toList]
  isLabelText := ⟨by decide, List.all_eq_true.1 (by decide)⟩
  opensNone := BoundsNone.opensNone (by decide +kernel)
  closing_not_mem := by decide +kernel

/-- Where none of the dashes belong to a boundary, all of them stay where they are. -/
theorem head_of_blocksOfText_dashed :
    Block.ofText dashedText = .ok ⟨.other "A", [⟨"N", "v"⟩], "AQ----------ID"⟩ ∧
    dashedFrame.lines = trimmedLines dashedText ∧ dashedFrame.IsUnaffected ∧
    ∃ blocks, blocksOfText dashedText = .ok blocks ∧
      blocks.head? = some ⟨.other "A", [⟨"N", "v"⟩], "AQ----------ID"⟩ := by
  have hfirst : Block.ofText dashedText = .ok ⟨.other "A", [⟨"N", "v"⟩], "AQ----------ID"⟩ := by
    rfl
  have hall : blocksOfText dashedText = .ok [⟨.other "A", [⟨"N", "v"⟩], "AQ----------ID"⟩] := by
    rfl
  have hframe : dashedFrame.lines = trimmedLines dashedText := by
    decide +kernel
  have hunaffected : dashedFrame.IsUnaffected := by
    refine ⟨BoundsNone.opensNone (by decide +kernel), ?_⟩
    unfold KeepsContent
    decide +kernel
  exact ⟨hfirst, hframe, hunaffected, _, hall, head_of_blocksOfText hfirst hall hframe hunaffected⟩

/-- Two blocks whose boundaries stand side by side on a line are two blocks, and to the reader of
one block that line is payload. -/
theorem side_by_side_boundaries_differ :
    Block.ofText
        "-----BEGIN A-----\nAQ==\n-----END A----------BEGIN A-----\nAg==\n-----END A-----" =
      .ok ⟨.other "A", [], "AQ==-----END A----------BEGIN A-----Ag=="⟩ ∧
    blocksOfText
        "-----BEGIN A-----\nAQ==\n-----END A----------BEGIN A-----\nAg==\n-----END A-----" =
      .ok [⟨.other "A", [], "AQ=="⟩, ⟨.other "A", [], "Ag=="⟩] ∧
    [(⟨.other "A", [], "AQ=="⟩ : Block), ⟨.other "A", [], "Ag=="⟩].head? ≠
      some ⟨.other "A", [], "AQ==-----END A----------BEGIN A-----Ag=="⟩ := by
  refine ⟨by rfl, by rfl, by decide⟩

end Credential.Pem
