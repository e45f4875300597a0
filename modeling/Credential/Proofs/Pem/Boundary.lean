import Credential.Pem.Boundary
import Credential.Pem.Label
import Credential.Proofs.Text.Blank

/-!
# Boundary lines

`Boundary.ofLine?` recognises exactly the lines of boundaries with a valid label
(`Boundary.ofLine?_eq_some_iff`). So a line with a colon, and a line that does not begin with a
dash, is no boundary.
-/

namespace Credential.Pem

/-- A label that a boundary can carry. -/
def IsLabelText (label : List Char) : Prop :=
  label ≠ [] ∧ ∀ c ∈ label, isLabelChar c = true

theorem dropLead?_eq_some_iff {lead cs rest : List Char} :
    Text.dropLead? lead cs = some rest ↔ cs = lead ++ rest := by
  unfold Text.dropLead?
  constructor
  · intro h
    split at h
    · next hprefix =>
        cases h
        obtain ⟨after, rfl⟩ := List.isPrefixOf_iff_prefix.1 hprefix
        rw [List.drop_left]
    · cases h
  · rintro rfl
    rw [if_pos (List.isPrefixOf_iff_prefix.2 (List.prefix_append _ _)), List.drop_left]

theorem labelBeforeDashes?_eq_some_iff {cs label : List Char} :
    labelBeforeDashes? cs = some label ↔ cs = label ++ dashes ∧ IsLabelText label := by
  unfold labelBeforeDashes?
  dsimp only
  constructor
  · intro h
    split at h
    · next hcond =>
        cases h
        obtain ⟨hne, hrest⟩ := hcond
        have hall := List.all_takeWhile (p := isLabelChar) (l := cs)
        refine ⟨?_, hne, List.all_eq_true.1 hall⟩
        rw [← hrest, List.takeWhile_append_dropWhile]
    · cases h
  · rintro ⟨rfl, hne, hall⟩
    -- the dashes are no characters of a label
    have htake : (label ++ dashes).takeWhile isLabelChar = label := by
      rw [List.takeWhile_append_of_pos hall]
      exact List.append_nil label
    have hdrop : (label ++ dashes).dropWhile isLabelChar = dashes := by
      rw [List.dropWhile_append_of_pos hall]
      rfl
    rw [htake, hdrop]
    exact if_pos ⟨hne, rfl⟩

namespace Boundary

/-- The label of a boundary. -/
def label : Boundary → List Char
  | .opening label => label
  | .closing label => label

theorem ofLine?_eq_some_iff {line : List Char} {b : Boundary} :
    ofLine? line = some b ↔ line = b.line ∧ IsLabelText b.label := by
  unfold ofLine?
  constructor
  · intro h
    split at h
    · next rest hlead =>
        obtain ⟨label, hlabel, rfl⟩ := Option.map_eq_some_iff.1 h
        obtain ⟨rfl, hvalid⟩ := labelBeforeDashes?_eq_some_iff.1 hlabel
        rw [dropLead?_eq_some_iff] at hlead
        exact ⟨hlead.trans (List.append_assoc _ _ _).symm, hvalid⟩
    · split at h
      · next rest hlead =>
          obtain ⟨label, hlabel, rfl⟩ := Option.map_eq_some_iff.1 h
          obtain ⟨rfl, hvalid⟩ := labelBeforeDashes?_eq_some_iff.1 hlabel
          rw [dropLead?_eq_some_iff] at hlead
          exact ⟨hlead.trans (List.append_assoc _ _ _).symm, hvalid⟩
      · cases h
  · rintro ⟨rfl, hvalid⟩
    cases b with
    | opening label =>
        have hlead : Text.dropLead? (dashes ++ ['B', 'E', 'G', 'I', 'N', ' '])
            (opening label).line = some (label ++ dashes) :=
          dropLead?_eq_some_iff.2 (List.append_assoc _ _ _)
        have hlabel := labelBeforeDashes?_eq_some_iff.2 ⟨rfl, hvalid⟩
        rw [hlead]
        exact congrArg (Option.map opening) hlabel
    | closing label =>
        have hother : Text.dropLead? (dashes ++ ['B', 'E', 'G', 'I', 'N', ' '])
            (closing label).line = none := rfl
        have hlead : Text.dropLead? (dashes ++ ['E', 'N', 'D', ' '])
            (closing label).line = some (label ++ dashes) :=
          dropLead?_eq_some_iff.2 (List.append_assoc _ _ _)
        have hlabel := labelBeforeDashes?_eq_some_iff.2 ⟨rfl, hvalid⟩
        rw [hother, hlead]
        exact congrArg (Option.map closing) hlabel

/-- A boundary begins with a dash. -/
theorem exists_line_eq_cons (b : Boundary) : ∃ rest, b.line = '-' :: rest := by
  cases b with
  | opening label => exact ⟨_, rfl⟩
  | closing label => exact ⟨_, rfl⟩

theorem exists_line_eq_concat (b : Boundary) : ∃ front, b.line = front ++ ['-'] := by
  have hdashes : dashes = ['-', '-', '-', '-'] ++ ['-'] := rfl
  cases b with
  | opening label =>
      exact ⟨dashes ++ ['B', 'E', 'G', 'I', 'N', ' '] ++ label ++ ['-', '-', '-', '-'], by
        rw [line, List.append_assoc _ _ ['-'], ← hdashes]⟩
  | closing label =>
      exact ⟨dashes ++ ['E', 'N', 'D', ' '] ++ label ++ ['-', '-', '-', '-'], by
        rw [line, List.append_assoc _ _ ['-'], ← hdashes]⟩

/-- A boundary has no blanks at its ends. -/
@[simp] theorem trim_line (b : Boundary) : Text.trim b.line = b.line := by
  obtain ⟨rest, hfirst⟩ := b.exists_line_eq_cons
  obtain ⟨front, hlast⟩ := b.exists_line_eq_concat
  exact Text.trim_of_ends (by decide) (by decide) hfirst hlast

/-- A character that is neither part of a label nor of the frame is not in a boundary. -/
theorem not_mem_line {b : Boundary} (h : IsLabelText b.label) {c : Char}
    (hlabel : isLabelChar c = false) (hdash : c ≠ '-') : c ∉ b.line := by
  have hframe : ((dashes ++ ['B', 'E', 'G', 'I', 'N', ' '] ++ ['E', 'N', 'D', ' ']).all
      fun d => isLabelChar d || d == '-') = true := by
    decide
  intro hc
  have hmem :
      c ∈ b.label ∨ c ∈ dashes ++ ['B', 'E', 'G', 'I', 'N', ' '] ++ ['E', 'N', 'D', ' '] := by
    cases b with
    | opening label =>
        simp only [line, List.mem_append] at hc ⊢
        rcases hc with (hc | hc) | hc
        · exact Or.inr (Or.inl hc)
        · exact Or.inl hc
        · exact Or.inr (Or.inl (Or.inl hc))
    | closing label =>
        simp only [line, List.mem_append] at hc ⊢
        rcases hc with ((hc | hc) | hc) | hc
        · exact Or.inr (Or.inl (Or.inl hc))
        · exact Or.inr (Or.inr hc)
        · exact Or.inl hc
        · exact Or.inr (Or.inl (Or.inl hc))
  rcases hmem with hmem | hmem
  · have htrue := h.2 c hmem
    rw [hlabel] at htrue
    cases htrue
  · have htrue := List.all_eq_true.1 hframe c hmem
    rw [hlabel, Bool.false_or, beq_iff_eq] at htrue
    exact hdash htrue

/-- A line with a character that no boundary has. -/
theorem ofLine?_of_mem {line : List Char} {c : Char} (hc : c ∈ line)
    (hlabel : isLabelChar c = false) (hdash : c ≠ '-') : ofLine? line = none := by
  cases h : ofLine? line with
  | none => rfl
  | some b =>
      obtain ⟨rfl, hvalid⟩ := ofLine?_eq_some_iff.1 h
      exact absurd hc (not_mem_line hvalid hlabel hdash)

/-- A line that does not begin with a dash. -/
theorem ofLine?_of_head {c : Char} (hdash : c ≠ '-') (rest : List Char) :
    ofLine? (c :: rest) = none := by
  cases h : ofLine? (c :: rest) with
  | none => rfl
  | some b =>
      obtain ⟨hline, -⟩ := ofLine?_eq_some_iff.1 h
      obtain ⟨others, hfirst⟩ := b.exists_line_eq_cons
      rw [hfirst] at hline
      exact absurd (List.cons.inj hline).1 hdash

end Boundary

/-! ## Labels -/

/-- A label whose text a boundary can carry and that is found again by it. -/
structure Label.IsPrintable (label : Label) : Prop where
  text : IsLabelText label.text.toList
  ofText : Label.ofText label.text = label

/-- The labels that are no mere texts are printable. -/
theorem Label.isPrintable_of_known {label : Label} (h : ∀ s, label ≠ .other s) :
    label.IsPrintable := by
  cases label with
  | privateKey => exact ⟨⟨by decide, List.all_eq_true.1 (by decide)⟩, rfl⟩
  | encryptedPrivateKey => exact ⟨⟨by decide, List.all_eq_true.1 (by decide)⟩, rfl⟩
  | rsaPrivateKey => exact ⟨⟨by decide, List.all_eq_true.1 (by decide)⟩, rfl⟩
  | certificate => exact ⟨⟨by decide, List.all_eq_true.1 (by decide)⟩, rfl⟩
  | other s => exact absurd rfl (h s)

end Credential.Pem
