import Credential.Proofs.Pem.Joining
import Credential.Proofs.Pem.Printing
import Credential.Proofs.Stages

/-!
# The grammar of PEM texts

What a text holds, told from its trimmed lines as a whole and not line by line. A `Frame` cuts the
lines at the first line that opens a block and at the first line after it that closes a block of the
same label; `Frame.result` is what the lines between them amount to, with the order of the faults. A
text without a line that opens a block has no frame, and every other text has one (`exists_frame`).

The reader gives the result of the frame and goes on after its closing line (`nextBlock_frame`). It
is proved for one line first: a line before the frame and a line that does not count are passed
over, and every other line is a header, a line of payload, or the fault of a header without a name.
So a text is read as its grammar says, one block of it or all of them (`texts_follow_grammar`).
-/

namespace Credential.Pem

/-! ## Lines of a text -/

/-- The lines of a text without the blanks around them. -/
def trimmedLines (s : String) : List (List Char) :=
  (Text.lines s.toList).map Text.trim

/-- Whether none of the lines opens a block. -/
def OpensNone (lines : List (List Char)) : Prop :=
  ∀ label, IsLabelText label → (Boundary.opening label).line ∉ lines

/-- A line that counts inside of a block: it is not empty and no boundary of any label. -/
def IsContent (line : List Char) : Prop :=
  line ≠ [] ∧ ∀ b : Boundary, IsLabelText b.label → line ≠ b.line

theorem opensNone_cons {line : List Char} {lines : List (List Char)} :
    OpensNone (line :: lines) ↔
      (∀ label, IsLabelText label → line ≠ (Boundary.opening label).line) ∧ OpensNone lines := by
  constructor
  · intro h
    exact ⟨fun label hlabel heq => h label hlabel (heq ▸ List.mem_cons_self),
      fun label hlabel hmem => h label hlabel (List.mem_cons_of_mem _ hmem)⟩
  · rintro ⟨hline, hlines⟩ label hlabel hmem
    rcases List.mem_cons.1 hmem with heq | hmem
    · exact hline label hlabel heq.symm
    · exact hlines label hlabel hmem

theorem isContent_iff {line : List Char} :
    IsContent line ↔ line ≠ [] ∧ Boundary.ofLine? line = none := by
  unfold IsContent
  refine and_congr_right fun _ => ?_
  rw [Option.eq_none_iff_forall_ne_some]
  refine forall_congr' fun b => ?_
  rw [Ne, Ne, Boundary.ofLine?_eq_some_iff, not_and']

instance : DecidablePred IsContent := fun _ => decidable_of_iff _ isContent_iff.symm

/-- The header properties among the lines of a block. -/
def propertyLines (body : List (List Char)) : List (List Char) :=
  body.filter fun line => IsContent line ∧ ':' ∈ line

/-- The lines of payload among the lines of a block. -/
def payloadLines (body : List (List Char)) : List (List Char) :=
  body.filter fun line => IsContent line ∧ ':' ∉ line

theorem propertyLines_cons (line : List Char) (body : List (List Char)) :
    propertyLines (line :: body) =
      if IsContent line ∧ ':' ∈ line then line :: propertyLines body else propertyLines body := by
  simp [propertyLines, List.filter_cons]

theorem payloadLines_cons (line : List Char) (body : List (List Char)) :
    payloadLines (line :: body) =
      if IsContent line ∧ ':' ∉ line then line :: payloadLines body else payloadLines body := by
  simp [payloadLines, List.filter_cons]

/-- The text before the first colon of a line. -/
def nameOf (line : List Char) : List Char :=
  Text.trim (line.takeWhile (· ≠ ':'))

/-- The text after the first colon of a line. -/
def valueOf (line : List Char) : List Char :=
  Text.trim (line.dropWhile (· ≠ ':')).tail

/-- The header that a line with a colon is. -/
def headerOf (line : List Char) : Header :=
  ⟨String.ofList (nameOf line), String.ofList (valueOf line)⟩

/-! ## Frames -/

/-- The lines before the first line that opens a block, the label of the block, the lines of the
block, and the lines after it, which are there if the block is closed. -/
structure Frame where
  before : List (List Char)
  label : List Char
  body : List (List Char)
  after : Option (List (List Char))
  isLabelText : IsLabelText label
  opensNone : OpensNone before
  closing_not_mem : (Boundary.closing label).line ∉ body

namespace Frame

/-- The closing line of a block and the lines after it. -/
def ending (frame : Frame) : List (List Char) :=
  match frame.after with
  | none => []
  | some rest => (Boundary.closing frame.label).line :: rest

/-- All lines of a frame. -/
def lines (frame : Frame) : List (List Char) :=
  frame.before ++ (Boundary.opening frame.label).line :: (frame.body ++ frame.ending)

/-- The block of a closed frame. -/
def block (frame : Frame) : Block where
  label := .ofText (String.ofList frame.label)
  headers := (propertyLines frame.body).map headerOf
  payload := String.ofList (payloadLines frame.body).flatten

/-- What a frame amounts to: a header without a name is found first, then that the block is not
closed, and then that it has no payload. -/
def result (frame : Frame) : Except Error Block :=
  match (propertyLines frame.body).find? fun line => nameOf line = [] with
  | some line => .error (.invalidHeader (String.ofList line))
  | none =>
    if frame.after = none then .error .missingEnd
    else if payloadLines frame.body = [] then .error .missingData
    else .ok frame.block

theorem result_eq_ok_iff {frame : Frame} {found : Block} : frame.result = .ok found ↔
    (∀ line ∈ propertyLines frame.body, nameOf line ≠ []) ∧ frame.after ≠ none ∧
      payloadLines frame.body ≠ [] ∧ frame.block = found := by
  unfold result
  cases hnameless : (propertyLines frame.body).find? fun line => nameOf line = [] with
  | some line =>
      have hline := List.mem_of_find?_eq_some hnameless
      have hname : nameOf line = [] := by simpa using List.find?_some hnameless
      constructor
      · intro h
        cases h
      · rintro ⟨hnames, -⟩
        exact absurd hname (hnames line hline)
  | none =>
      have hnames : ∀ line ∈ propertyLines frame.body, nameOf line ≠ [] := by
        simpa using List.find?_eq_none.1 hnameless
      dsimp only
      by_cases hafter : frame.after = none
      · simp [hafter]
      · by_cases hpayload : payloadLines frame.body = []
        · simp [hafter, hpayload]
        · simpa [hafter, hpayload] using fun _ => hnames

end Frame

/-- The first block of the given lines. -/
inductive ReadsFirst : List (List Char) → Except Error Block → Prop
  | missing {lines : List (List Char)} : OpensNone lines → ReadsFirst lines (.error .missingBegin)
  | framed (frame : Frame) : ReadsFirst frame.lines frame.result

/-- The blocks of the given lines, one after the other until none is opened. -/
inductive ReadsAll : List (List Char) → Except Error (List Block) → Prop
  | done {lines : List (List Char)} : OpensNone lines → ReadsAll lines (.ok [])
  | fault {frame : Frame} {cause : Error} : frame.result = .error cause →
      ReadsAll frame.lines (.error cause)
  | block {frame : Frame} {block : Block} {rest : List (List Char)}
      {others : Except Error (List Block)} : frame.result = .ok block → frame.after = some rest →
      ReadsAll rest others → ReadsAll frame.lines (others.map (block :: ·))

/-! ## One line -/

variable {line : List Char}

/-- The blanks around a line do not count. -/
theorem advance_trim (position : Position) (line : List Char) :
    position.advance (Text.trim line) = position.advance line := by
  unfold Position.advance
  rw [Text.trim_trim]

/-- A line outside of a block that opens none. -/
theorem advance_outside (htrim : Text.trim line = line)
    (h : ∀ label, IsLabelText label → line ≠ (Boundary.opening label).line) :
    Position.outside.advance line = .ok (.more .outside) := by
  unfold Position.advance
  dsimp only
  rw [htrim]
  cases hline : Boundary.ofLine? line with
  | none => rfl
  | some boundary =>
      cases boundary with
      | closing label => rfl
      | opening label =>
          obtain ⟨heq, hlabel⟩ := Boundary.ofLine?_eq_some_iff.1 hline
          exact absurd heq (h label hlabel)

section Inside

variable (label : List Char) (headers : Headers) (payload : List (List Char))

/-- A line of a block that does not count and does not close it. -/
theorem advance_ignored (htrim : Text.trim line = line) (hcontent : ¬ IsContent line)
    (hclosing : line ≠ (Boundary.closing label).line) :
    (Position.inside label headers payload).advance line =
      .ok (.more (.inside label headers payload)) := by
  by_cases hempty : line = []
  · rw [hempty]
    exact advance_empty label headers payload
  unfold Position.advance
  dsimp only
  rw [htrim]
  cases hline : Boundary.ofLine? line with
  | none => exact absurd (isContent_iff.2 ⟨hempty, hline⟩) hcontent
  | some boundary =>
      cases boundary with
      | opening other => rfl
      | closing ending =>
          obtain ⟨heq, -⟩ := Boundary.ofLine?_eq_some_iff.1 hline
          have hother : ending ≠ label := fun he => hclosing (he ▸ heq)
          exact if_neg hother

/-- A line of a block that counts. -/
theorem advance_of_isContent (htrim : Text.trim line = line) (hcontent : IsContent line) :
    (Position.inside label headers payload).advance line =
      if ':' ∉ line then .ok (.more (.inside label headers (line :: payload)))
      else if nameOf line = [] then .error (.invalidHeader (String.ofList line))
      else .ok (.more (.inside label (headerOf line :: headers) payload)) := by
  obtain ⟨hne, hnone⟩ := isContent_iff.1 hcontent
  rw [advance_content (by rwa [htrim]), htrim]
  unfold readContent
  rw [if_neg (by simpa using hne)]
  by_cases hcolon : ':' ∈ line
  · rw [Text.splitAt?_of_mem hcolon, if_neg (not_not_intro hcolon)]
    change Except.map _ (if (nameOf line).isEmpty = true then _ else _) = _
    simp only [List.isEmpty_iff]
    split <;> rfl
  · rw [Text.splitAt?_of_not_mem hcolon, if_pos hcolon]
    rfl

end Inside

/-! ## One block -/

/-- The next block that ends in the given lines, with the lines after it, if a block is opened. -/
def nextBlock : Position → List (List Char) → Except Error (Option (Block × List (List Char)))
  | .outside, [] => .ok none
  | .inside _ _ _, [] => .error .missingEnd
  | position, line :: lines =>
    match position.advance line with
    | .error e => .error e
    | .ok (.closed block) => .ok (some (block, lines))
    | .ok (.more next) => nextBlock next lines

theorem firstBlock_eq (position : Position) (lines : List (List Char)) :
    firstBlock position lines = match nextBlock position lines with
      | .error e => .error e
      | .ok none => .error .missingBegin
      | .ok (some found) => .ok found.1 := by
  induction lines generalizing position with
  | nil => cases position <;> rfl
  | cons line lines ih =>
      rw [firstBlock, nextBlock]
      cases hadvance : position.advance line with
      | error cause => rfl
      | ok progress =>
          cases progress with
          | closed block => rfl
          | more next => exact ih next

theorem allBlocks_eq (position : Position) (lines : List (List Char)) :
    allBlocks position lines = match nextBlock position lines with
      | .error e => .error e
      | .ok none => .ok []
      | .ok (some found) => (allBlocks .outside found.2).map (found.1 :: ·) := by
  induction lines generalizing position with
  | nil => cases position <;> rfl
  | cons line lines ih =>
      rw [allBlocks, nextBlock]
      cases hadvance : position.advance line with
      | error cause => rfl
      | ok progress =>
          cases progress with
          | closed block => rfl
          | more next => exact ih next

theorem nextBlock_of_more {position next : Position}
    (h : position.advance line = .ok (.more next)) (rest : List (List Char)) :
    nextBlock position (line :: rest) = nextBlock next rest := by
  rw [nextBlock, h]

/-- Lines that open no block are passed over. -/
theorem nextBlock_before {before : List (List Char)}
    (htrim : ∀ line ∈ before, Text.trim line = line) (h : OpensNone before)
    (rest : List (List Char)) :
    nextBlock .outside (before ++ rest) = nextBlock .outside rest := by
  induction before with
  | nil => rfl
  | cons line before ih =>
      obtain ⟨hline, hothers⟩ := List.forall_mem_cons.1 htrim
      obtain ⟨hopens, hrest⟩ := opensNone_cons.1 h
      rw [List.cons_append, nextBlock_of_more (advance_outside hline hopens)]
      exact ih hothers hrest

/-- The lines of a block up to its closing line: the reader stops at the first header without a
name, and otherwise it has all headers and lines of payload. -/
theorem nextBlock_body {body : List (List Char)} (htrim : ∀ line ∈ body, Text.trim line = line)
    {label : List Char} (hclosing : (Boundary.closing label).line ∉ body) (headers : Headers)
    (payload rest : List (List Char)) :
    nextBlock (.inside label headers payload) (body ++ rest) =
      match (propertyLines body).find? fun line => nameOf line = [] with
      | some line => .error (.invalidHeader (String.ofList line))
      | none => nextBlock (.inside label (((propertyLines body).map headerOf).reverse ++ headers)
          ((payloadLines body).reverse ++ payload)) rest := by
  -- headers and payload are collected in front of what was read before
  induction body generalizing headers payload with
  | nil => rfl
  | cons line body ih =>
      obtain ⟨hline, hothers⟩ := List.forall_mem_cons.1 htrim
      obtain ⟨hdiffers, hrest⟩ := not_or.1 (mt List.mem_cons.2 hclosing)
      rw [List.cons_append, propertyLines_cons, payloadLines_cons]
      -- the line is a header, a line of payload, or one that does not count
      by_cases hcontent : IsContent line
      · have hadvance := advance_of_isContent label headers payload hline hcontent
        by_cases hcolon : ':' ∈ line
        · rw [if_pos ⟨hcontent, hcolon⟩, if_neg fun h => h.2 hcolon]
          rw [if_neg (not_not_intro hcolon)] at hadvance
          by_cases hname : nameOf line = []
          · rw [if_pos hname] at hadvance
            rw [List.find?_cons_of_pos (by simpa using hname), nextBlock, hadvance]
          · rw [if_neg hname] at hadvance
            rw [List.find?_cons_of_neg (by simpa using hname), nextBlock_of_more hadvance,
              ih hothers hrest]
            simp
        · rw [if_neg fun h => hcolon h.2, if_pos ⟨hcontent, hcolon⟩]
          rw [if_pos hcolon] at hadvance
          rw [nextBlock_of_more hadvance, ih hothers hrest]
          simp
      · have hadvance := advance_ignored label headers payload hline hcontent (Ne.symm hdiffers)
        rw [if_neg fun h => hcontent h.1, if_neg fun h => hcontent h.1, nextBlock_of_more hadvance,
          ih hothers hrest]

/-- The reader gives the result of a frame, and the lines after it are left. -/
theorem nextBlock_frame {frame : Frame} (htrim : ∀ line ∈ frame.lines, Text.trim line = line) :
    nextBlock .outside frame.lines =
      frame.result.map fun block => some (block, frame.after.getD []) := by
  have hbefore : ∀ line ∈ frame.before, Text.trim line = line :=
    fun line hline => htrim line (List.mem_append_left _ hline)
  have hbody : ∀ line ∈ frame.body, Text.trim line = line := fun line hline =>
    htrim line (List.mem_append_right _ (List.mem_cons_of_mem _ (List.mem_append_left _ hline)))
  unfold Frame.lines
  rw [nextBlock_before hbefore frame.opensNone,
    nextBlock_of_more (advance_opening frame.isLabelText),
    nextBlock_body hbody frame.closing_not_mem, List.append_nil, List.append_nil]
  unfold Frame.result
  cases (propertyLines frame.body).find? fun line => nameOf line = [] with
  | some line => rfl
  | none =>
      dsimp only
      unfold Frame.ending
      cases hafter : frame.after with
      | none => rfl
      | some rest =>
          -- the closing line ends the block with what was collected in reverse
          dsimp only
          rw [nextBlock, advance_closing frame.isLabelText, if_neg (by simp)]
          unfold closeBlock
          by_cases hpayload : payloadLines frame.body = []
          · rw [if_pos (by simp [hpayload]), if_pos hpayload]
            rfl
          · rw [if_neg (by simpa using hpayload), if_neg hpayload, List.reverse_reverse,
              List.reverse_reverse]
            rfl

/-! ## Grammar and reader -/

/-- Lines that open a block have a frame. -/
theorem exists_frame {lines : List (List Char)} (h : ¬ OpensNone lines) :
    ∃ frame : Frame, frame.lines = lines := by
  induction lines with
  | nil => exact absurd (fun label hlabel => List.not_mem_nil) h
  | cons line lines ih =>
      by_cases hopens : ∀ label, IsLabelText label → line ≠ (Boundary.opening label).line
      · -- the line is one of those before the frame
        obtain ⟨frame, rfl⟩ := ih fun hnone => h (opensNone_cons.2 ⟨hopens, hnone⟩)
        exact ⟨{ frame with
          before := line :: frame.before
          opensNone := opensNone_cons.2 ⟨hopens, frame.opensNone⟩ }, rfl⟩
      · obtain ⟨label, hlabel, rfl⟩ : ∃ label, IsLabelText label ∧
            line = (Boundary.opening label).line := by
          simpa using hopens
        have hbefore : OpensNone [] := fun label hlabel => List.not_mem_nil
        by_cases hclosing : (Boundary.closing label).line ∈ lines
        · obtain ⟨body, rest, rfl, hbody⟩ := List.eq_append_cons_of_mem hclosing
          exact ⟨⟨[], label, body, some rest, hlabel, hbefore, hbody⟩, rfl⟩
        · refine ⟨⟨[], label, lines, none, hlabel, hbefore, hclosing⟩, ?_⟩
          change _ :: (lines ++ []) = _
          rw [List.append_nil]

theorem exists_readsFirst (lines : List (List Char)) : ∃ r, ReadsFirst lines r := by
  by_cases hnone : OpensNone lines
  · exact ⟨_, .missing hnone⟩
  · obtain ⟨frame, rfl⟩ := exists_frame hnone
    exact ⟨_, .framed frame⟩

theorem exists_readsAll (lines : List (List Char)) : ∃ r, ReadsAll lines r := by
  by_cases hnone : OpensNone lines
  · exact ⟨_, .done hnone⟩
  obtain ⟨frame, rfl⟩ := exists_frame hnone
  cases hresult : frame.result with
  | error cause => exact ⟨_, .fault hresult⟩
  | ok block =>
      obtain ⟨-, hclosed, -⟩ := Frame.result_eq_ok_iff.1 hresult
      obtain ⟨rest, hafter⟩ := Option.ne_none_iff_exists'.1 hclosed
      -- the lines after a frame are fewer than those of the frame
      have hshorter : rest.length < frame.lines.length := by
        simp [Frame.lines, Frame.ending, hafter]
        omega
      obtain ⟨others, hothers⟩ := exists_readsAll rest
      exact ⟨_, .block hresult hafter hothers⟩
termination_by lines.length

theorem trim_of_mem_trimmedLines {s : String} : ∀ line ∈ trimmedLines s, Text.trim line = line := by
  intro line hline
  obtain ⟨raw, -, rfl⟩ := List.mem_map.1 hline
  exact Text.trim_trim raw

theorem firstBlock_map_trim (position : Position) (lines : List (List Char)) :
    firstBlock position (lines.map Text.trim) = firstBlock position lines := by
  induction lines generalizing position with
  | nil => rfl
  | cons line lines ih => simp only [List.map_cons, firstBlock, advance_trim, ih]

theorem allBlocks_map_trim (position : Position) (lines : List (List Char)) :
    allBlocks position (lines.map Text.trim) = allBlocks position lines := by
  induction lines generalizing position with
  | nil => rfl
  | cons line lines ih =>
      rw [List.map_cons, allBlocks, allBlocks, advance_trim]
      simp only [ih]

section Trimmed

variable {lines : List (List Char)} (htrim : ∀ line ∈ lines, Text.trim line = line)

include htrim

/-- Lines that open no block. -/
theorem nextBlock_of_opensNone (h : OpensNone lines) : nextBlock .outside lines = .ok none := by
  have hlines := nextBlock_before htrim h []
  rwa [List.append_nil] at hlines

/-- The first block is the one of the grammar. -/
theorem firstBlock_of_readsFirst {r : Except Error Block} (h : ReadsFirst lines r) :
    firstBlock .outside lines = r := by
  rw [firstBlock_eq]
  cases h with
  | missing hnone => rw [nextBlock_of_opensNone htrim hnone]
  | framed frame =>
      rw [nextBlock_frame htrim]
      cases frame.result <;> rfl

/-- All blocks are those of the grammar. -/
theorem allBlocks_of_readsAll {r : Except Error (List Block)} (h : ReadsAll lines r) :
    allBlocks .outside lines = r := by
  -- one case for the end of the reading, one for a fault and one for a block before the others
  induction h with
  | done hnone => rw [allBlocks_eq, nextBlock_of_opensNone htrim hnone]
  | fault hresult =>
      rw [allBlocks_eq, nextBlock_frame htrim, hresult]
      rfl
  | @block frame block rest others hresult hafter hothers ih =>
      have hrest : ∀ line ∈ rest, Text.trim line = line := by
        intro line hline
        apply htrim line
        simp [Frame.lines, Frame.ending, hafter, hline]
      rw [allBlocks_eq, nextBlock_frame htrim, hresult, hafter]
      exact congrArg (Except.map (block :: ·)) (ih hrest)

/-- The first block of trimmed lines is the one of the grammar. -/
theorem firstBlock_eq_iff {r : Except Error Block} :
    firstBlock .outside lines = r ↔ ReadsFirst lines r := by
  constructor
  · rintro rfl
    obtain ⟨r, hreads⟩ := exists_readsFirst lines
    rwa [firstBlock_of_readsFirst htrim hreads]
  · exact firstBlock_of_readsFirst htrim

/-- All blocks of trimmed lines are those of the grammar. -/
theorem allBlocks_eq_iff {r : Except Error (List Block)} :
    allBlocks .outside lines = r ↔ ReadsAll lines r := by
  constructor
  · rintro rfl
    obtain ⟨r, hreads⟩ := exists_readsAll lines
    rwa [allBlocks_of_readsAll htrim hreads]
  · exact allBlocks_of_readsAll htrim

end Trimmed

/-- The blocks that are read are the blocks of the text, if there are any. -/
theorem blocksOfText_eq_allBlocks {s : String}
    (h : allBlocks .outside (separatedLines s) ≠ .ok []) :
    blocksOfText s = allBlocks .outside (separatedLines s) := by
  unfold separatedLines at h ⊢
  unfold blocksOfText
  cases hall : allBlocks .outside (Text.lines (separateBoundaries s.toList)) with
  | error cause => rfl
  | ok found =>
      cases found with
      | nil => exact absurd hall h
      | cons first others => rfl

theorem ReadsAll.ne_nil {lines : List (List Char)} {r : Except Error (List Block)}
    (h : ReadsAll lines r) (hopens : ¬ OpensNone lines) : r ≠ .ok [] := by
  cases h with
  | done hnone => exact absurd hnone hopens
  | fault hresult => simp
  | block hresult hafter hothers => simp [map_eq_ok_iff]

/-! ## Main result -/

/-- The first block of a text, or its fault, is exactly what the grammar says of the trimmed lines
of the text. If the text has no ten dashes in a row, all its blocks are those that the grammar gives
one after the other, and there is at least one. -/
theorem texts_follow_grammar (s : String) :
    (∀ r, Block.ofText s = r ↔ ReadsFirst (trimmedLines s) r) ∧
    (¬ joint <:+: s.toList → ∀ r, blocksOfText s = r ↔
      OpensNone (trimmedLines s) ∧ r = .error .missingBegin ∨
      ¬ OpensNone (trimmedLines s) ∧ ReadsAll (trimmedLines s) r) := by
  constructor
  · intro r
    rw [← firstBlock_eq_iff trim_of_mem_trimmedLines]
    unfold trimmedLines
    rw [firstBlock_map_trim]
    exact Iff.rfl
  · intro hjoint r
    have hall (r : Except Error (List Block)) :
        allBlocks .outside (separatedLines s) = r ↔ ReadsAll (trimmedLines s) r := by
      rw [← allBlocks_eq_iff trim_of_mem_trimmedLines]
      unfold trimmedLines separatedLines
      rw [allBlocks_map_trim, separateBoundaries_of_not_joint hjoint]
    by_cases hnone : OpensNone (trimmedLines s)
    · have hmissing : blocksOfText s = .error .missingBegin :=
        blocksOfText_eq_missingBegin_iff.2 ((hall _).2 (.done hnone))
      simp [hmissing, hnone, eq_comm]
    · have hsome : allBlocks .outside (separatedLines s) ≠ .ok [] :=
        ((hall _).1 rfl).ne_nil hnone
      rw [blocksOfText_eq_allBlocks hsome, hall]
      simp [hnone]

/-- A text of two blocks, the first of them with a boundary of another label and blanks around
lines. -/
def twoBlockText : String :=
  "t\n -----BEGIN A 1-----\nN: v\n-----END B-----\n AQ== \n-----END A 1-----\n" ++
    "\n-----BEGIN B-----\nAg==\n-----END B-----"

/-- Two blocks, and a header without a name that is found before the missing end of its block. -/
theorem texts_follow_grammar_two :
    ReadsAll (trimmedLines twoBlockText) (.ok
      [⟨.other "A 1", [⟨"N", "v"⟩], "AQ=="⟩, ⟨.other "B", [], "Ag=="⟩]) ∧
    ReadsFirst (trimmedLines "-----BEGIN B-----\nAg==\n : v\n-----END C-----")
      (.error (.invalidHeader ": v")) := by
  have hall : blocksOfText twoBlockText =
      .ok [⟨.other "A 1", [⟨"N", "v"⟩], "AQ=="⟩, ⟨.other "B", [], "Ag=="⟩] := by
    rfl
  have hfault : Block.ofText "-----BEGIN B-----\nAg==\n : v\n-----END C-----" =
      .error (.invalidHeader ": v") := by
    rfl
  refine ⟨?_, ((texts_follow_grammar _).1 _).1 hfault⟩
  rcases ((texts_follow_grammar _).2 (by decide +kernel) _).1 hall with ⟨-, h⟩ | ⟨-, hreads⟩
  · cases h
  · exact hreads

end Credential.Pem
