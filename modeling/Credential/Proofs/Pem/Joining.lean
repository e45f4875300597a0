import Credential.Proofs.Pem.Line

/-!
# Texts put together

The blocks of two texts, one after the other, are the blocks of the first and then those of the
second, whether a line feed stands between the texts or two boundaries meet at the joint
(`blocksOfText_append`). Nothing of a text that was read to its end is left open: after the last of
its lines the reader is outside of a block (`allBlocks_append`).

Boundaries that stand side by side are separated in the whole text. A character that is no dash ends
every run of dashes, so this can be done on both sides of it (`separateBoundaries_append`), and at a
joint of two boundaries the run is exactly the ten dashes of the joint (`separateBoundaries_joint`).
-/

namespace Credential.Pem

/-! ## Separating boundaries -/

/-- The run of dashes that two boundaries make where they meet. -/
def joint : List Char := dashes ++ dashes

theorem separateBoundaries_run (cs : List Char) :
    separateBoundaries (joint ++ cs) = dashes ++ '\n' :: dashes ++ separateBoundaries cs := rfl

theorem separateBoundaries_cons {c : Char} {cs : List Char} (h : ¬ joint <+: c :: cs) :
    separateBoundaries (c :: cs) = c :: separateBoundaries cs := by
  rw [separateBoundaries]
  -- the row for a run of ten does not match
  rintro rest rfl rfl
  exact h ⟨rest, rfl⟩

/-- What is a prefix of a text is one of its part before a character that it does not have. -/
theorem prefix_of_prefix_append_cons {part xs ys : List Char} {c : Char} (hc : c ∉ part)
    (h : part <+: xs ++ c :: ys) : part <+: xs := by
  rcases List.prefix_or_prefix_of_prefix h (List.prefix_append xs (c :: ys)) with hpart | hxs
  · exact hpart
  · obtain ⟨rest, rfl⟩ := hxs
    rw [List.prefix_append_right_inj] at h
    cases rest with
    | nil => simp
    | cons d rest =>
        obtain ⟨rfl, -⟩ := List.cons_prefix_cons.1 h
        exact absurd (List.mem_append_right xs List.mem_cons_self) hc

/-- A character that is no dash keeps apart what is before and after it. -/
theorem separateBoundaries_append {c : Char} (hc : c ≠ '-') (xs ys : List Char) :
    separateBoundaries (xs ++ c :: ys) = separateBoundaries xs ++ c :: separateBoundaries ys := by
  have hjoint : c ∉ joint := by
    intro hmem
    have hdash : ∀ d ∈ joint, d = '-' := by simp [joint, dashes]
    exact hc (hdash c hmem)
  -- the induction is over the runs and the single characters of the first part
  induction xs using separateBoundaries.induct with
  | case1 cs ih =>
      change separateBoundaries (joint ++ (cs ++ c :: ys)) = _
      rw [separateBoundaries_run, ih]
      rfl
  | case2 d cs hrun ih =>
      have hshort : ¬ joint <+: d :: cs := by
        rintro ⟨rest, he⟩
        obtain ⟨hd, hcs⟩ := List.cons.inj he
        exact hrun rest hd.symm hcs.symm
      have hlong : ¬ joint <+: d :: (cs ++ c :: ys) :=
        fun h => hshort (prefix_of_prefix_append_cons hjoint h)
      rw [List.cons_append, separateBoundaries_cons hlong, separateBoundaries_cons hshort, ih,
        List.cons_append]
  | case3 =>
      apply separateBoundaries_cons
      intro h
      obtain ⟨hdash, -⟩ := List.cons_prefix_cons.1 h
      exact hc hdash.symm

/-- Characters that are no dashes, before a text. -/
theorem separateBoundaries_append_left {lead : List Char} (h : '-' ∉ lead) (cs : List Char) :
    separateBoundaries (lead ++ cs) = lead ++ separateBoundaries cs := by
  induction lead with
  | nil => rfl
  | cons c lead ih =>
      obtain ⟨hc, hothers⟩ := not_or.1 (mt List.mem_cons.2 h)
      have hstep := separateBoundaries_append (Ne.symm hc) [] (lead ++ cs)
      rwa [ih hothers] at hstep

/-- Characters that are no dashes, after a text. -/
theorem separateBoundaries_append_right {trail : List Char} (h : '-' ∉ trail) (cs : List Char) :
    separateBoundaries (cs ++ trail) = separateBoundaries cs ++ trail := by
  cases trail with
  | nil => rw [List.append_nil, List.append_nil]
  | cons c trail =>
      obtain ⟨hc, hothers⟩ := not_or.1 (mt List.mem_cons.2 h)
      have htrail := separateBoundaries_append_left hothers []
      rw [List.append_nil] at htrail
      rw [separateBoundaries_append (Ne.symm hc), htrail]
      exact congrArg _ (congrArg _ (List.append_nil trail))

/-- Without ten dashes in a row there is nothing to separate. -/
theorem separateBoundaries_of_not_joint {cs : List Char} (h : ¬ joint <:+: cs) :
    separateBoundaries cs = cs := by
  induction cs with
  | nil => rfl
  | cons c cs ih =>
      rw [separateBoundaries_cons fun hlead => h hlead.isInfix,
        ih fun hinside => h (List.infix_cons hinside)]

/-- Where five dashes meet five dashes there is a line feed between them afterwards. -/
theorem separateBoundaries_joint {c d : Char} (hc : c ≠ '-') (hd : d ≠ '-') (xs ys : List Char) :
    separateBoundaries ((xs ++ c :: dashes) ++ (dashes ++ d :: ys)) =
      separateBoundaries (xs ++ c :: dashes) ++ '\n' :: separateBoundaries (dashes ++ d :: ys) := by
  have hrun : separateBoundaries (dashes ++ (dashes ++ d :: ys)) =
      dashes ++ '\n' :: dashes ++ separateBoundaries (d :: ys) := rfl
  have hlead : separateBoundaries (d :: ys) = d :: separateBoundaries ys :=
    separateBoundaries_append hd [] ys
  have hdashes : separateBoundaries dashes = dashes := rfl
  rw [List.append_assoc, List.cons_append, separateBoundaries_append hc, hrun, hlead,
    separateBoundaries_append hc, hdashes, separateBoundaries_append hd, hdashes]
  simp

/-! ## Reading lines one after the other -/

/-- Lines that are read to their end leave the reader outside of a block. -/
theorem allBlocks_append {position : Position} {first : List (List Char)} {blocks : List Block}
    (h : allBlocks position first = .ok blocks) (second : List (List Char)) :
    allBlocks position (first ++ second) = (allBlocks .outside second).map (blocks ++ ·) := by
  induction first generalizing position blocks with
  | nil =>
      cases position with
      | outside =>
          cases h
          rw [List.nil_append]
          cases allBlocks .outside second <;> rfl
      | inside label headers payload => cases h
  | cons line first ih =>
      rw [List.cons_append, allBlocks]
      rw [allBlocks] at h
      cases hadvance : position.advance line with
      | error cause =>
          simp only [hadvance] at h
          cases h
      | ok progress =>
          cases progress with
          | more next =>
              simp only [hadvance] at h ⊢
              exact ih h
          | closed block =>
              simp only [hadvance] at h ⊢
              cases hrest : allBlocks .outside first with
              | error cause =>
                  rw [hrest] at h
                  cases h
              | ok others =>
                  rw [hrest] at h
                  cases h
                  rw [ih hrest]
                  cases allBlocks .outside second <;> rfl

/-- The faults of a line: a header without a name, and a block that ends without payload. -/
theorem fault_of_advance {position : Position} {line : List Char} {cause : Error}
    (h : position.advance line = .error cause) :
    cause = .missingData ∨ ∃ text, cause = .invalidHeader text := by
  have hadvances := position.advances line
  rw [h] at hadvances
  cases hadvances with
  | nameless label headers payload => exact Or.inr ⟨_, rfl⟩
  | empty label headers => exact Or.inl rfl

/-- No line is a reason to miss a beginning. -/
theorem allBlocks_ne_missingBegin (position : Position) (lines : List (List Char)) :
    allBlocks position lines ≠ .error .missingBegin := by
  induction lines generalizing position with
  | nil =>
      intro h
      cases position <;> cases h
  | cons line lines ih =>
      intro h
      rw [allBlocks] at h
      cases hadvance : position.advance line with
      | error cause =>
          simp only [hadvance, Except.error.injEq] at h
          rcases fault_of_advance hadvance with rfl | ⟨text, rfl⟩ <;> cases h
      | ok progress =>
          cases progress with
          | more next =>
              simp only [hadvance] at h
              exact ih next h
          | closed block =>
              simp only [hadvance] at h
              cases hrest : allBlocks .outside lines with
              | ok others =>
                  rw [hrest] at h
                  cases h
              | error cause =>
                  rw [hrest] at h
                  cases h
                  exact ih .outside hrest

/-! ## Blocks of texts -/

/-- The lines of a text, with boundaries that stand side by side on lines of their own. -/
def separatedLines (s : String) : List (List Char) :=
  Text.lines (separateBoundaries s.toList)

theorem blocksOfText_eq_ok_iff {s : String} {blocks : List Block} :
    blocksOfText s = .ok blocks ↔
      allBlocks .outside (separatedLines s) = .ok blocks ∧ blocks ≠ [] := by
  unfold blocksOfText separatedLines
  cases allBlocks .outside (Text.lines (separateBoundaries s.toList)) with
  | error cause => simp
  | ok found =>
      cases found with
      | nil => simp
      | cons first rest =>
          simp only [Except.ok.injEq]
          grind

/-- A text misses a beginning if it has no block, and nothing else is wrong with it. -/
theorem blocksOfText_eq_missingBegin_iff {s : String} :
    blocksOfText s = .error .missingBegin ↔ allBlocks .outside (separatedLines s) = .ok [] := by
  have hne := allBlocks_ne_missingBegin .outside (separatedLines s)
  unfold separatedLines at hne
  unfold blocksOfText separatedLines
  cases hall : allBlocks .outside (Text.lines (separateBoundaries s.toList)) with
  | error cause =>
      rw [hall] at hne
      simpa using hne
  | ok found => cases found <;> simp

theorem blocksOfText_eq_error_iff {s : String} {cause : Error} (hne : cause ≠ .missingBegin) :
    blocksOfText s = .error cause ↔ allBlocks .outside (separatedLines s) = .error cause := by
  unfold blocksOfText separatedLines
  cases allBlocks .outside (Text.lines (separateBoundaries s.toList)) with
  | error other => simp
  | ok found =>
      cases found with
      | nil => simp [Ne.symm hne]
      | cons first rest => simp

/-- The lines of two texts with a line feed between them. -/
theorem separatedLines_append (s t : String) :
    separatedLines (s ++ "\n" ++ t) = separatedLines s ++ separatedLines t := by
  have hlist : (s ++ "\n" ++ t).toList = s.toList ++ '\n' :: t.toList := by
    have hfeed : ("\n").toList = ['\n'] := rfl
    rw [String.toList_append, String.toList_append, hfeed, List.append_assoc]
    rfl
  unfold separatedLines
  rw [hlist, separateBoundaries_append (by decide), Text.lines_append]

/-! ## Boundaries that meet -/

/-- Whether the last line of a text is a boundary that closes a block, as it stands. -/
def EndsInClosing (s : String) : Prop :=
  ∃ label, IsLabelText label ∧
    (Text.lines s.toList).getLast? = some (Boundary.closing label).line

/-- Whether a text begins with the keyword that opens a block. -/
def BeginsWithOpening (t : String) : Prop :=
  dashes ++ ['B', 'E', 'G', 'I', 'N', ' '] <+: t.toList

/-- The dashes at the end of a boundary stand after a character of its label. -/
theorem closing_line_eq {label : List Char} (h : IsLabelText label) :
    ∃ front c, (Boundary.closing label).line = front ++ c :: dashes ∧ c ≠ '-' := by
  obtain ⟨hne, hall⟩ := h
  refine ⟨dashes ++ ['E', 'N', 'D', ' '] ++ label.dropLast, label.getLast hne, ?_, ?_⟩
  · change dashes ++ ['E', 'N', 'D', ' '] ++ label ++ dashes = _
    rw [List.append_assoc _ label.dropLast, List.append_cons label.dropLast,
      List.dropLast_concat_getLast, List.append_assoc _ label]
  · intro hdash
    have hlast := hall _ (List.getLast_mem hne)
    rw [hdash] at hlast
    cases hlast

/-- Two boundaries that meet are read as if a line feed stood between them. -/
theorem separatedLines_joint {s t : String} (hs : EndsInClosing s) (ht : BeginsWithOpening t) :
    separatedLines (s ++ t) = separatedLines s ++ separatedLines t := by
  obtain ⟨label, hlabel, hlast⟩ := hs
  obtain ⟨front, hfront⟩ := Text.suffix_of_getLast?_lines hlast
  obtain ⟨before, c, hline, hc⟩ := closing_line_eq hlabel
  obtain ⟨rest, hrest⟩ := ht
  have hfirst : s.toList = (front ++ before) ++ c :: dashes := by
    rw [← hfront, hline, List.append_assoc]
  have hsecond : t.toList = dashes ++ 'B' :: (['E', 'G', 'I', 'N', ' '] ++ rest) := hrest.symm
  unfold separatedLines
  rw [String.toList_append, hfirst, hsecond, separateBoundaries_joint hc (by decide),
    Text.lines_append]

/-! ## Main result -/

/-- The blocks of a text that is read to its end come before those of the text after it. -/
theorem allBlocks_separatedLines_append {s : String} {blocks : List Block}
    (h : blocksOfText s = .ok blocks) (t : String) :
    allBlocks .outside (separatedLines s ++ separatedLines t) =
      (allBlocks .outside (separatedLines t)).map (blocks ++ ·) :=
  allBlocks_append (blocksOfText_eq_ok_iff.1 h).1 _

/-- The blocks of two texts that are put together, with a line feed between them or with two
boundaries at the joint. A second text without blocks adds none, and every other fault of it is the
fault of the whole. -/
theorem blocksOfText_append (s t : String) {blocks : List Block}
    (hs : blocksOfText s = .ok blocks) :
    (∀ others, blocksOfText t = .ok others →
      blocksOfText (s ++ "\n" ++ t) = .ok (blocks ++ others) ∧
      (EndsInClosing s → BeginsWithOpening t → blocksOfText (s ++ t) = .ok (blocks ++ others))) ∧
    (blocksOfText t = .error .missingBegin → blocksOfText (s ++ "\n" ++ t) = .ok blocks) ∧
    (∀ cause, cause ≠ .missingBegin → blocksOfText t = .error cause →
      blocksOfText (s ++ "\n" ++ t) = .error cause) := by
  have hne : blocks ≠ [] := (blocksOfText_eq_ok_iff.1 hs).2
  have hboth := allBlocks_separatedLines_append hs t
  refine ⟨?_, ?_, ?_⟩
  · intro others ht
    rw [(blocksOfText_eq_ok_iff.1 ht).1] at hboth
    have hjoined : blocks ++ others ≠ [] := by simp [hne]
    constructor
    · apply blocksOfText_eq_ok_iff.2
      rw [separatedLines_append]
      exact ⟨hboth, hjoined⟩
    · intro hclosing hopening
      apply blocksOfText_eq_ok_iff.2
      rw [separatedLines_joint hclosing hopening]
      exact ⟨hboth, hjoined⟩
  · intro ht
    rw [blocksOfText_eq_missingBegin_iff.1 ht] at hboth
    apply blocksOfText_eq_ok_iff.2
    rw [separatedLines_append, hboth]
    exact ⟨congrArg Except.ok (List.append_nil blocks), hne⟩
  · intro cause hcause ht
    rw [(blocksOfText_eq_error_iff hcause).1 ht] at hboth
    apply (blocksOfText_eq_error_iff hcause).2
    rw [separatedLines_append]
    exact hboth

/-- Two blocks whose boundaries meet. -/
theorem blocksOfText_append_side_by_side :
    blocksOfText "-----BEGIN A-----\nAQ==\n-----END A-----" = .ok [⟨.other "A", [], "AQ=="⟩] ∧
      blocksOfText
          ("-----BEGIN A-----\nAQ==\n-----END A-----" ++
            "-----BEGIN B 1-----\nN: v\nAg==\n-----END B 1-----\nend") =
        .ok [⟨.other "A", [], "AQ=="⟩, ⟨.other "B 1", [⟨"N", "v"⟩], "Ag=="⟩] := by
  have hs : blocksOfText "-----BEGIN A-----\nAQ==\n-----END A-----" =
      .ok [⟨.other "A", [], "AQ=="⟩] := by
    rfl
  have ht : blocksOfText "-----BEGIN B 1-----\nN: v\nAg==\n-----END B 1-----\nend" =
      .ok [⟨.other "B 1", [⟨"N", "v"⟩], "Ag=="⟩] := by
    rfl
  have hlabel : IsLabelText ['A'] := ⟨by decide, List.all_eq_true.1 (by decide)⟩
  refine ⟨hs, ((blocksOfText_append _ _ hs).1 _ ht).2 ?_ ?_⟩
  · exact ⟨['A'], hlabel, by rfl⟩
  · exact List.isPrefixOf_iff_prefix.1 (by decide +kernel)

end Credential.Pem
