import Credential.Text.Blank

/-!
# Trimming, lines and cuts of texts

How `trim` works on a text that is put together from parts: a character that is no blank ends the
trimming from both sides (`trimStart_cons`, `trimEnd_append_cons`), and blanks that were trimmed
before do not count (`trim_trimStart`, `trim_trimEnd`). A text is cut into its lines at the line
feeds (`lines_eq`), and lines written with their line feeds are read back as lines
(`lines_flatMap_append`).
-/

namespace Credential.Text

/-! ## Trimming -/

/-- The text without the blanks at its end. -/
def trimEnd (cs : List Char) : List Char :=
  (cs.reverse.dropWhile isBlank).reverse

theorem trim_eq (cs : List Char) : trim cs = trimEnd (trimStart cs) := rfl

theorem trimStart_cons {c : Char} (h : isBlank c = false) (cs : List Char) :
    trimStart (c :: cs) = c :: cs := by
  unfold trimStart
  exact List.dropWhile_cons_of_neg (by simp [h])

theorem trimStart_cons_of_blank {c : Char} (h : isBlank c = true) (cs : List Char) :
    trimStart (c :: cs) = trimStart cs := by
  unfold trimStart
  exact List.dropWhile_cons_of_pos h

/-- Nothing is left of blanks. -/
theorem trimStart_of_blanks {blanks : List Char} (h : ∀ c ∈ blanks, isBlank c = true) :
    trimStart blanks = [] := by
  induction blanks with
  | nil => rfl
  | cons c blanks ih =>
      rw [trimStart_cons_of_blank (h c List.mem_cons_self)]
      exact ih fun c hc => h c (List.mem_cons_of_mem _ hc)

/-- Trimming the start of a text that does not go away altogether. -/
theorem trimStart_append {xs : List Char} (h : trimStart xs ≠ []) (ys : List Char) :
    trimStart (xs ++ ys) = trimStart xs ++ ys := by
  unfold trimStart at h ⊢
  rw [List.dropWhile_append, if_neg (by simpa using h)]

theorem trimEnd_append_cons {c : Char} (h : isBlank c = false) (xs ys : List Char) :
    trimEnd (xs ++ c :: ys) = xs ++ c :: trimEnd ys := by
  have hreverse : (xs ++ c :: ys).reverse = ys.reverse ++ (c :: xs.reverse) := by simp
  have hstop : (c :: xs.reverse).dropWhile isBlank = c :: xs.reverse :=
    List.dropWhile_cons_of_neg (by simp [h])
  unfold trimEnd
  rw [hreverse, List.dropWhile_append, hstop]
  by_cases hys : ys.reverse.dropWhile isBlank = []
  · rw [hys]
    simp
  · rw [if_neg (by simpa using hys)]
    simp

/-- Blanks at the end do not count. -/
theorem trimEnd_append_blanks {blanks : List Char} (h : ∀ c ∈ blanks, isBlank c = true)
    (cs : List Char) : trimEnd (cs ++ blanks) = trimEnd cs := by
  have hgone : trimStart blanks.reverse = [] :=
    trimStart_of_blanks fun c hc => h c (List.mem_reverse.1 hc)
  unfold trimStart at hgone
  unfold trimEnd
  rw [List.reverse_append, List.dropWhile_append, hgone]
  rfl

/-- A text is its trimmed form and blanks. -/
theorem exists_blanks (cs : List Char) :
    ∃ blanks, (∀ c ∈ blanks, isBlank c = true) ∧ cs = trimEnd cs ++ blanks := by
  refine ⟨(cs.reverse.takeWhile isBlank).reverse, ?_, ?_⟩
  · intro c hc
    have hall := List.all_takeWhile (p := isBlank) (l := cs.reverse)
    exact List.all_eq_true.1 hall c (List.mem_reverse.1 hc)
  · unfold trimEnd
    rw [← List.reverse_append, List.takeWhile_append_dropWhile, List.reverse_reverse]

theorem trimStart_trimStart (cs : List Char) : trimStart (trimStart cs) = trimStart cs := by
  induction cs with
  | nil => rfl
  | cons c cs ih =>
      cases hc : isBlank c with
      | true => rw [trimStart_cons_of_blank hc, ih]
      | false => rw [trimStart_cons hc, trimStart_cons hc]

@[simp] theorem trim_trimStart (cs : List Char) : trim (trimStart cs) = trim cs := by
  rw [trim_eq, trimStart_trimStart, ← trim_eq]

/-- Blanks after a text do not count. -/
theorem trim_append_blanks {blanks : List Char} (h : ∀ c ∈ blanks, isBlank c = true)
    (cs : List Char) : trim (cs ++ blanks) = trim cs := by
  have hgone := trimStart_of_blanks h
  -- without anything but blanks both sides are empty; else the blanks are at the end
  by_cases hkept : trimStart cs = []
  · have hall : trimStart (cs ++ blanks) = [] := by
      unfold trimStart at hkept hgone ⊢
      rw [List.dropWhile_append, hkept]
      exact hgone
    rw [trim_eq, trim_eq, hall, hkept]
  · rw [trim_eq, trim_eq, trimStart_append hkept, trimEnd_append_blanks h]

@[simp] theorem trim_trimEnd (cs : List Char) : trim (trimEnd cs) = trim cs := by
  obtain ⟨blanks, hblanks, hcs⟩ := exists_blanks cs
  generalize trimEnd cs = kept at hcs ⊢
  rw [hcs, trim_append_blanks hblanks]

@[simp] theorem trim_trim (cs : List Char) : trim (trim cs) = trim cs := by
  rw [trim_eq cs, trim_trimEnd, trim_trimStart, ← trim_eq]

theorem trim_cons_of_blank {c : Char} (h : isBlank c = true) (cs : List Char) :
    trim (c :: cs) = trim cs := by
  rw [trim_eq, trimStart_cons_of_blank h, ← trim_eq]

/-- Blanks before a text do not count. -/
theorem trim_blanks_append {blanks : List Char} (h : ∀ c ∈ blanks, isBlank c = true)
    (cs : List Char) : trim (blanks ++ cs) = trim cs := by
  induction blanks with
  | nil => rfl
  | cons c blanks ih =>
      obtain ⟨hc, hothers⟩ := List.forall_mem_cons.1 h
      rw [List.cons_append, trim_cons_of_blank hc, ih hothers]

/-- A text is its trimmed form between blanks. -/
theorem exists_blanks_around (cs : List Char) :
    ∃ lead trail, (∀ c ∈ lead, isBlank c = true) ∧ (∀ c ∈ trail, isBlank c = true) ∧
      cs = lead ++ trim cs ++ trail := by
  obtain ⟨trail, htrail, hstart⟩ := exists_blanks (trimStart cs)
  refine ⟨cs.takeWhile isBlank, trail, List.all_eq_true.1 List.all_takeWhile, htrail, ?_⟩
  rw [trim_eq, List.append_assoc, ← hstart]
  exact List.takeWhile_append_dropWhile.symm

/-- What stands before a character that is no blank is trimmed regardless of what follows. -/
theorem exists_trimStart_append {c : Char} (hc : isBlank c = false) (xs : List Char) :
    ∃ kept, ∀ ys, trimStart (xs ++ c :: ys) = kept ++ c :: ys := by
  induction xs with
  | nil => exact ⟨[], trimStart_cons hc⟩
  | cons x xs ih =>
      obtain ⟨kept, hkept⟩ := ih
      cases hx : isBlank x with
      | true => exact ⟨kept, fun ys => (trimStart_cons_of_blank hx _).trans (hkept ys)⟩
      | false => exact ⟨x :: xs, fun ys => trimStart_cons hx _⟩

/-- Trimming two texts that meet in characters that are no blanks. -/
theorem trim_append_of_ends {c d : Char} (hc : isBlank c = false) (hd : isBlank d = false)
    (xs ys : List Char) : trim ((xs ++ [c]) ++ d :: ys) = trim (xs ++ [c]) ++ trim (d :: ys) := by
  obtain ⟨kept, hkept⟩ := exists_trimStart_append hc xs
  have hfirst : trim (xs ++ [c]) = kept ++ [c] := by
    rw [trim_eq, hkept]
    exact trimEnd_append_cons hc kept []
  have hsecond : trim (d :: ys) = d :: trimEnd ys := by
    rw [trim_eq, trimStart_cons hd]
    exact trimEnd_append_cons hd [] ys
  rw [hfirst, hsecond, trim_eq, List.append_assoc, List.singleton_append, hkept,
    List.append_cons kept c (d :: ys)]
  exact trimEnd_append_cons hd (kept ++ [c]) ys

/-- Trimming adds no characters. -/
theorem mem_of_mem_trim {c : Char} {cs : List Char} (h : c ∈ trim cs) : c ∈ cs := by
  have hstart : c ∈ (trimStart cs).reverse.dropWhile isBlank := List.mem_reverse.1 h
  have hend : c ∈ trimStart cs :=
    List.mem_reverse.1 ((List.dropWhile_suffix isBlank).subset hstart)
  exact (List.dropWhile_suffix isBlank).subset hend

theorem length_trim_le (cs : List Char) : (trim cs).length ≤ cs.length := by
  have hstart : (cs.dropWhile isBlank).length ≤ cs.length :=
    (List.dropWhile_suffix _).sublist.length_le
  have hend : ((trimStart cs).reverse.dropWhile isBlank).length ≤ (trimStart cs).reverse.length :=
    (List.dropWhile_suffix _).sublist.length_le
  rw [List.length_reverse] at hend
  unfold trim
  rw [List.length_reverse]
  exact Nat.le_trans hend hstart

/-- A text that trimming leaves as it is begins with no blank. -/
theorem isBlank_of_trim_cons {c : Char} {cs : List Char} (h : trim (c :: cs) = c :: cs) :
    isBlank c = false := by
  cases hc : isBlank c with
  | false => rfl
  | true =>
      have hle := length_trim_le cs
      rw [← trim_cons_of_blank hc, h, List.length_cons] at hle
      omega

/-- Trimming keeps the characters that are no blanks. -/
theorem mem_trim {c : Char} (hc : isBlank c = false) {cs : List Char} (h : c ∈ cs) :
    c ∈ trim cs := by
  have hkeep (ds : List Char) (hd : c ∈ ds) : c ∈ ds.dropWhile isBlank := by
    rw [← List.takeWhile_append_dropWhile (p := isBlank) (l := ds), List.mem_append] at hd
    rcases hd with hd | hd
    · have hblank := List.all_eq_true.1 List.all_takeWhile c hd
      rw [hc] at hblank
      cases hblank
    · exact hd
  have hstart : c ∈ (trimStart cs).reverse := List.mem_reverse.2 (hkeep cs h)
  exact List.mem_reverse.2 (hkeep _ hstart)

/-- A text that begins and ends with characters that are no blanks. -/
theorem trim_of_ends {c d : Char} (hc : isBlank c = false) (hd : isBlank d = false)
    {cs rest front : List Char} (hfirst : cs = c :: rest) (hlast : cs = front ++ [d]) :
    trim cs = cs := by
  have hstart : trimStart cs = cs := by
    rw [hfirst]
    exact trimStart_cons hc rest
  have hend : trimEnd cs = cs := by
    rw [hlast]
    exact trimEnd_append_cons hd front []
  rw [trim_eq, hstart, hend]

/-- A text without blanks. -/
theorem trim_of_forall {cs : List Char} (h : ∀ c ∈ cs, isBlank c = false) : trim cs = cs := by
  by_cases hnil : cs = []
  · rw [hnil]
    rfl
  · obtain ⟨first, rest, hfirst⟩ := List.exists_cons_of_ne_nil hnil
    exact trim_of_ends (h _ (hfirst ▸ List.mem_cons_self)) (h _ (List.getLast_mem hnil)) hfirst
      (List.dropLast_concat_getLast hnil).symm

/-! ## Cuts -/

theorem splitAt?_append {mark : Char} {before : List Char} (h : mark ∉ before)
    (after : List Char) : splitAt? mark (before ++ mark :: after) = some (before, after) := by
  induction before with
  | nil => exact if_pos rfl
  | cons c before ih =>
      have hc : c ≠ mark := fun he => h (he ▸ List.mem_cons_self)
      have hbefore : mark ∉ before := fun hm => h (List.mem_cons_of_mem _ hm)
      rw [List.cons_append, splitAt?, if_neg hc, ih hbefore]
      rfl

theorem splitAt?_of_not_mem {mark : Char} {cs : List Char} (h : mark ∉ cs) :
    splitAt? mark cs = none := by
  induction cs with
  | nil => rfl
  | cons c cs ih =>
      have hc : c ≠ mark := fun he => h (he ▸ List.mem_cons_self)
      have hcs : mark ∉ cs := fun hm => h (List.mem_cons_of_mem _ hm)
      rw [splitAt?, if_neg hc, ih hcs]
      rfl

/-- A cut in terms of the characters that are no mark. -/
theorem splitAt?_of_mem {mark : Char} {cs : List Char} (h : mark ∈ cs) :
    splitAt? mark cs = some (cs.takeWhile (· ≠ mark), (cs.dropWhile (· ≠ mark)).tail) := by
  obtain ⟨before, after, rfl, hbefore⟩ := List.eq_append_cons_of_mem h
  have hother : ∀ c ∈ before, decide (c ≠ mark) = true := by
    intro c hc
    exact decide_eq_true fun he => hbefore (he ▸ hc)
  rw [splitAt?_append hbefore, List.takeWhile_append_of_pos hother,
    List.dropWhile_append_of_pos hother]
  simp

/-- A cut gives the parts before and after the first mark. -/
theorem eq_of_splitAt? {mark : Char} {cs before after : List Char}
    (h : splitAt? mark cs = some (before, after)) :
    cs = before ++ mark :: after ∧ mark ∉ before := by
  induction cs generalizing before with
  | nil => cases h
  | cons c cs ih =>
      rw [splitAt?] at h
      split at h
      · next hc =>
          cases h
          rw [hc]
          exact ⟨rfl, List.not_mem_nil⟩
      · next hc =>
          obtain ⟨⟨front, rest⟩, hcut, hparts⟩ := Option.map_eq_some_iff.1 h
          cases hparts
          obtain ⟨rfl, hmark⟩ := ih hcut
          refine ⟨rfl, ?_⟩
          intro hmem
          rcases List.mem_cons.1 hmem with he | hmem
          · exact hc he.symm
          · exact hmark hmem

theorem splitOn_eq (mark : Char) (cs : List Char) : splitOn mark cs = List.splitOn mark cs := by
  rw [List.splitOn_eq_splitOnP]
  induction cs with
  | nil => rw [List.splitOnP_nil, splitOn]
  | cons c cs ih =>
      rw [List.splitOnP_cons_eq_if_modifyHead, ← ih, splitOn]
      by_cases hc : c = mark
      · rw [if_pos hc, if_pos (beq_iff_eq.2 hc)]
      · rw [if_neg hc, if_neg (mt beq_iff_eq.1 hc)]
        cases hsplit : splitOn mark cs with
        | nil =>
            rw [hsplit] at ih
            exact absurd ih.symm (List.splitOnP_ne_nil _ cs)
        | cons part parts => rfl

/-- Parts without the mark are cut out of the text that joins them. -/
theorem splitOn_intercalate {mark : Char} {parts : List (List Char)}
    (hparts : ∀ part ∈ parts, mark ∉ part) (hne : parts ≠ []) :
    splitOn mark ([mark].intercalate parts) = parts := by
  rw [splitOn_eq]
  exact List.splitOn_intercalate mark hparts hne

/-- A mark cuts a text into the parts before it and the parts after it. -/
theorem splitOn_append_cons (mark : Char) (xs ys : List Char) :
    splitOn mark (xs ++ mark :: ys) = splitOn mark xs ++ splitOn mark ys := by
  rw [splitOn_eq, splitOn_eq, splitOn_eq]
  exact List.splitOn_append_cons_self xs ys

theorem splitOn_of_not_mem {mark : Char} {cs : List Char} (h : mark ∉ cs) :
    splitOn mark cs = [cs] := by
  have hparts : ∀ part ∈ [cs], mark ∉ part := by simpa using h
  have hsplit := splitOn_intercalate hparts (List.cons_ne_nil _ _)
  rwa [List.intercalate_singleton] at hsplit

theorem intercalate_splitOn (mark : Char) (cs : List Char) :
    [mark].intercalate (splitOn mark cs) = cs := by
  rw [splitOn_eq]
  exact List.intercalate_splitOn mark

/-- A character that does not cut is in one of the parts. -/
theorem exists_mem_splitOn {mark c : Char} (hc : c ≠ mark) {cs : List Char} (h : c ∈ cs) :
    ∃ part ∈ splitOn mark cs, c ∈ part := by
  induction cs with
  | nil => cases h
  | cons d cs ih =>
      unfold splitOn
      by_cases hd : d = mark
      · rw [if_pos hd]
        have hcs : c ∈ cs := by
          rcases List.mem_cons.1 h with rfl | hcs
          · exact absurd hd hc
          · exact hcs
        obtain ⟨part, hpart, hmem⟩ := ih hcs
        exact ⟨part, List.mem_cons_of_mem _ hpart, hmem⟩
      · rw [if_neg hd]
        cases hsplit : splitOn mark cs with
        | nil =>
            rcases List.mem_cons.1 h with rfl | hcs
            · exact ⟨[c], List.mem_cons_self, List.mem_cons_self⟩
            · obtain ⟨part, hpart, -⟩ := ih hcs
              rw [hsplit] at hpart
              cases hpart
        | cons first rest =>
            rcases List.mem_cons.1 h with rfl | hcs
            · exact ⟨c :: first, List.mem_cons_self, List.mem_cons_self⟩
            · obtain ⟨part, hpart, hmem⟩ := ih hcs
              rw [hsplit] at hpart
              rcases List.mem_cons.1 hpart with rfl | hrest
              · exact ⟨d :: part, List.mem_cons_self, List.mem_cons_of_mem _ hmem⟩
              · exact ⟨part, List.mem_cons_of_mem _ hrest, hmem⟩

/-! ## Lines -/

/-- Line feeds are the marks at which a text is cut into its lines. -/
theorem lines_eq (cs : List Char) : lines cs = splitOn '\n' cs := by
  induction cs with
  | nil => rfl
  | cons c cs ih => rw [lines, splitOn, ih]

theorem lines_ne_nil (cs : List Char) : lines cs ≠ [] := by
  rw [lines_eq, splitOn_eq]
  exact List.splitOn_ne_nil _ _

/-- The lines of two texts with a line feed between them. -/
theorem lines_append (xs ys : List Char) : lines (xs ++ '\n' :: ys) = lines xs ++ lines ys := by
  rw [lines_eq, lines_eq, lines_eq]
  exact splitOn_append_cons _ _ _

theorem lines_of_not_mem {line : List Char} (h : '\n' ∉ line) : lines line = [line] := by
  rw [lines_eq]
  exact splitOn_of_not_mem h

theorem lines_append_feed {line : List Char} (h : '\n' ∉ line) (rest : List Char) :
    lines (line ++ '\n' :: rest) = line :: lines rest := by
  rw [lines_append, lines_of_not_mem h]
  rfl

theorem written_cons (line : List Char) (written : List (List Char)) (last : List Char) :
    (line :: written).flatMap (· ++ ['\n']) ++ last =
      line ++ '\n' :: (written.flatMap (· ++ ['\n']) ++ last) := by
  simp

/-- Lines that were written with their line feeds, before a last one without. -/
theorem lines_flatMap_append {written : List (List Char)} (h : ∀ line ∈ written, '\n' ∉ line)
    {last : List Char} (hlast : '\n' ∉ last) :
    lines (written.flatMap (· ++ ['\n']) ++ last) = written ++ [last] := by
  induction written with
  | nil => exact lines_of_not_mem hlast
  | cons line written ih =>
      have hrest := ih fun l hl => h l (List.mem_cons_of_mem _ hl)
      rw [written_cons, lines_append_feed (h line List.mem_cons_self), hrest]
      rfl

/-- No line has a line feed. -/
theorem feed_not_mem_of_mem_lines {cs line : List Char} (h : line ∈ lines cs) : '\n' ∉ line := by
  induction cs generalizing line with
  | nil =>
      obtain rfl := List.mem_singleton.1 h
      exact List.not_mem_nil
  | cons c cs ih =>
      rw [lines] at h
      split at h
      · rcases List.mem_cons.1 h with rfl | h
        · exact List.not_mem_nil
        · exact ih h
      · next hc =>
          have hfeed : '\n' ≠ c := fun he => hc he.symm
          cases hrest : lines cs with
          | nil => exact absurd hrest (lines_ne_nil cs)
          | cons first rest =>
              rw [hrest] at h ih
              rcases List.mem_cons.1 h with rfl | h
              · intro hmem
                rcases List.mem_cons.1 hmem with he | hmem
                · exact hfeed he
                · exact ih List.mem_cons_self hmem
              · exact ih (List.mem_cons_of_mem _ h)

/-- A text is its lines, with a line feed after each but the last. -/
theorem exists_written_lines (cs : List Char) :
    ∃ written last, lines cs = written ++ [last] ∧ cs = written.flatMap (· ++ ['\n']) ++ last := by
  induction cs with
  | nil => exact ⟨[], [], rfl, rfl⟩
  | cons c cs ih =>
      obtain ⟨written, last, hlines, hcs⟩ := ih
      rw [lines, hlines]
      by_cases hc : c = '\n'
      · refine ⟨[] :: written, last, if_pos hc, ?_⟩
        rw [hc, List.flatMap_cons, List.append_assoc, ← hcs]
        rfl
      · rw [if_neg hc]
        -- the character belongs to the first line, which may also be the last one
        cases written with
        | nil =>
            obtain rfl : cs = last := hcs
            exact ⟨[], c :: cs, rfl, rfl⟩
        | cons first rest =>
            refine ⟨(c :: first) :: rest, last, rfl, ?_⟩
            rw [hcs]
            rfl

/-- What stands before the first line feed of a text. -/
theorem lines_append_of_not_mem {lead cs first : List Char} {rest : List (List Char)}
    (hlead : '\n' ∉ lead) (hcs : lines cs = first :: rest) :
    lines (lead ++ cs) = (lead ++ first) :: rest := by
  induction lead with
  | nil => exact hcs
  | cons c lead ih =>
      obtain ⟨hc, hothers⟩ := not_or.1 (mt List.mem_cons.2 hlead)
      rw [List.cons_append, lines, if_neg (Ne.symm hc), ih hothers]
      rfl

/-- A text ends in its last line. -/
theorem suffix_of_getLast?_lines {cs last : List Char} (h : (lines cs).getLast? = some last) :
    last <:+ cs := by
  obtain ⟨written, last', hlines, hcs⟩ := exists_written_lines cs
  rw [hlines, List.getLast?_concat] at h
  cases h
  exact ⟨_, hcs.symm⟩

/-! ## Lower case -/

/-- Lower case changes capital letters only, of which none is a blank. -/
theorem toLower_of_isBlank {c : Char} (h : isBlank c = true) : c.toLower = c := by
  have hnot : ¬ (c ≥ 'A' ∧ c ≤ 'Z') := by
    rintro ⟨hge, hle⟩
    have hlow : 65 ≤ c.toNat := hge
    have hhigh : c.toNat ≤ 90 := hle
    simp [isBlank] at h
    omega
  unfold Char.toLower
  exact dif_neg hnot

/-- A character that lower case leaves alone is in a text if it is in its lower case. -/
theorem not_mem_of_map_toLower {c : Char} (hc : c.toLower = c) {cs : List Char}
    (h : c ∉ cs.map Char.toLower) : c ∉ cs := by
  intro hmem
  apply h
  rw [← hc]
  exact List.mem_map_of_mem hmem

theorem trim_of_map_toLower {cs : List Char}
    (h : ∀ c ∈ cs.map Char.toLower, isBlank c = false) : trim cs = cs := by
  apply trim_of_forall
  intro c hc
  cases hblank : isBlank c with
  | false => rfl
  | true =>
      have hfalse := h _ (List.mem_map_of_mem hc)
      rw [toLower_of_isBlank hblank, hblank] at hfalse
      cases hfalse

end Credential.Text
