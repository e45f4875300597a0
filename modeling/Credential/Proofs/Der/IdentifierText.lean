import Credential.Proofs.Der.ArcGroups
import Credential.Proofs.Text.Blank
import Credential.Proofs.Text.Decimal

/-!
# The dotted form of an object identifier

A dotted form is decimal numerals with dots between them (`dotted`), and the text of an identifier
is the dotted form in which no numeral has a sign or zeros in front. Dots cut a dotted form into its
numerals again, so it tells the numbers it writes (`dotted_inj`), and two identifiers with the same
text have the same arcs (`text_inj`). `ofText_eq_ok_iff` says which texts are read and as what.

The identifiers that are read at all, from octets or from a text, are those with two arcs or more,
each of which fits 64 bits (`isRead_iff`). The text of such an identifier is read as that identifier
(`ofText_text`).
-/

namespace Credential.Der.ObjectIdentifier

open Text.Decimal (Numeral bound64)

/-! ## Dotted forms -/

/-- Numerals with dots between them. -/
def dotted (numerals : List Numeral) : String :=
  String.ofList (['.'].intercalate (numerals.map Numeral.text))

theorem text_eq_dotted (oid : ObjectIdentifier) :
    oid.text = dotted (oid.arcs.map Numeral.canonical) := by
  have hdigits : oid.arcs.map (fun arc => (toString arc).toList) =
      oid.arcs.map (fun arc => (Numeral.canonical arc).text) := by
    refine List.map_congr_left fun arc _ => ?_
    rw [Nat.toString_eq_ofList_toDigits, String.toList_ofList]
    rfl
  unfold text dotted
  rw [← String.toList_inj, String.toList_intercalate, String.toList_ofList, String.toList_ofList,
    List.map_map, List.map_map]
  exact congrArg _ hdigits

/-- Dots cut numerals apart, since no numeral has one. -/
theorem splitOn_dotted {numerals : List Numeral} (hne : numerals ≠ []) :
    Text.splitOn '.' (dotted numerals).toList = numerals.map Numeral.text := by
  unfold dotted
  rw [String.toList_ofList]
  refine Text.splitOn_intercalate ?_ (mt List.map_eq_nil_iff.1 hne)
  intro part hpart
  obtain ⟨n, -, rfl⟩ := List.mem_map.1 hpart
  exact Numeral.not_mem_text rfl (by decide)

theorem dotted_ne_of_nil {numerals : List Numeral} (hne : numerals ≠ []) :
    dotted numerals ≠ dotted [] := by
  intro hsame
  have hsplit := splitOn_dotted hne
  rw [hsame] at hsplit
  -- the empty text is cut into one empty part, and no numeral is empty
  have hmem : [] ∈ numerals.map Numeral.text := hsplit ▸ List.mem_cons_self
  obtain ⟨n, hn, htext⟩ := List.mem_map.1 hmem
  exact n.digits_ne_nil (List.append_eq_nil_iff.1 htext).2

/-- A dotted form tells the numbers it writes. -/
theorem dotted_inj {ns ms : List Numeral} (h : dotted ns = dotted ms) :
    ns.map Numeral.value = ms.map Numeral.value := by
  by_cases hns : ns = []
  · by_cases hms : ms = []
    · rw [hns, hms]
    · rw [hns] at h
      exact absurd h.symm (dotted_ne_of_nil hms)
  · by_cases hms : ms = []
    · rw [hms] at h
      exact absurd h (dotted_ne_of_nil hns)
    · have htexts : ns.map Numeral.text = ms.map Numeral.text := by
        rw [← splitOn_dotted hns, h, splitOn_dotted hms]
      have hvalue : Numeral.value =
          (fun cs => Nat.ofDigitChars 10 (Text.Decimal.dropPlus cs) 0) ∘ Numeral.text := by
        funext n
        rw [Function.comp_apply, n.dropPlus_text, n.ofDigitChars_digits]
      rw [hvalue, ← List.map_map, htexts, List.map_map]

theorem map_value_canonical (arcs : List Nat) :
    (arcs.map Numeral.canonical).map Numeral.value = arcs := by
  rw [List.map_map]
  exact List.map_id' arcs

/-- Identifiers are told apart by their texts. -/
theorem text_inj {oid other : ObjectIdentifier} :
    oid.text = other.text ↔ oid.arcs = other.arcs := by
  constructor
  · intro h
    rw [text_eq_dotted, text_eq_dotted] at h
    have hvalues := dotted_inj h
    rwa [map_value_canonical, map_value_canonical] at hvalues
  · intro h
    unfold text
    rw [h]

/-! ## Reading -/

theorem readParts_eq_ok_iff {parts : List (List Char)} {arcs : List Nat} :
    readParts parts = .ok arcs ↔ ∃ numerals : List Numeral, parts = numerals.map Numeral.text ∧
      (∀ n ∈ numerals, n.value < bound64) ∧ arcs = numerals.map Numeral.value := by
  induction parts generalizing arcs with
  | nil =>
      constructor
      · intro h
        cases h
        exact ⟨[], rfl, List.forall_mem_nil _, rfl⟩
      · rintro ⟨numerals, htexts, -, rfl⟩
        rw [List.map_eq_nil_iff.1 htexts.symm]
        rfl
  | cons part parts ih =>
      constructor
      · intro h
        rw [readParts] at h
        split at h
        · cases h
        · next arc hread =>
            obtain ⟨others, hothers, rfl⟩ := map_eq_ok_iff.1 h
            obtain ⟨numerals, rfl, hfits, rfl⟩ := ih.1 hothers
            obtain ⟨hlt, n, rfl, rfl⟩ := Text.Decimal.readBelow?_eq_some_iff.1 hread
            exact ⟨n :: numerals, rfl, List.forall_mem_cons.2 ⟨hlt, hfits⟩, rfl⟩
      · rintro ⟨numerals, htexts, hfits, rfl⟩
        cases numerals with
        | nil => cases htexts
        | cons n numerals =>
            obtain ⟨rfl, rfl⟩ := List.cons.inj htexts
            obtain ⟨hlt, hothers⟩ := List.forall_mem_cons.1 hfits
            have hread : Text.Decimal.readBelow? bound64 n.text = some n.value :=
              Text.Decimal.readBelow?_eq_some_iff.2 ⟨hlt, n, rfl, rfl⟩
            rw [readParts, hread]
            exact map_eq_ok_iff.2 ⟨_, ih.2 ⟨numerals, rfl, hothers, rfl⟩, rfl⟩

/-- A text is read if it is the dotted form of two numerals or more, each of which fits 64 bits. -/
theorem ofText_eq_ok_iff {s : String} {oid : ObjectIdentifier} :
    ofText s = .ok oid ↔ ∃ numerals : List Numeral, s = dotted numerals ∧ 2 ≤ numerals.length ∧
      (∀ n ∈ numerals, n.value < bound64) ∧ oid.arcs = numerals.map Numeral.value := by
  unfold ofText
  constructor
  · intro h
    split at h
    · cases h
    · next arcs hread =>
        split at h
        · cases h
        · next hlength =>
            cases h
            obtain ⟨numerals, htexts, hfits, rfl⟩ := readParts_eq_ok_iff.1 hread
            rw [List.length_map] at hlength
            refine ⟨numerals, ?_, Nat.le_of_not_lt hlength, hfits, rfl⟩
            unfold dotted
            rw [← htexts, Text.intercalate_splitOn, String.ofList_toList]
  · rintro ⟨numerals, rfl, hlength, hfits, harcs⟩
    have hne : numerals ≠ [] := by
      rintro rfl
      exact absurd hlength (by decide)
    have hread := readParts_eq_ok_iff.2 ⟨numerals, splitOn_dotted hne, hfits, rfl⟩
    rw [hread]
    dsimp only
    rw [List.length_map, if_neg (Nat.not_lt.2 hlength), ← harcs]

/-! ## Identifiers that are read -/

/-- An identifier that is read from content octets or from a dotted form. -/
def IsRead (oid : ObjectIdentifier) : Prop :=
  (∃ octets, ofContent octets = .ok oid) ∨ ∃ s, ofText s = .ok oid

theorem ofText_text_iff {oid : ObjectIdentifier} :
    ofText oid.text = .ok oid ↔ 2 ≤ oid.arcs.length ∧ ∀ arc ∈ oid.arcs, arc < bound64 := by
  rw [ofText_eq_ok_iff]
  constructor
  · rintro ⟨numerals, -, hlength, hfits, harcs⟩
    rw [harcs, List.length_map]
    refine ⟨hlength, fun arc harc => ?_⟩
    obtain ⟨n, hn, rfl⟩ := List.mem_map.1 harc
    exact hfits n hn
  · rintro ⟨hlength, hfits⟩
    refine ⟨oid.arcs.map Numeral.canonical, text_eq_dotted oid, by rwa [List.length_map], ?_,
      (map_value_canonical _).symm⟩
    intro n hn
    obtain ⟨arc, harc, rfl⟩ := List.mem_map.1 hn
    exact hfits arc harc

/-- Identifiers that are read have at least two arcs, and these fit 64 bits. -/
theorem isRead_iff {oid : ObjectIdentifier} :
    oid.IsRead ↔ 2 ≤ oid.arcs.length ∧ ∀ arc ∈ oid.arcs, arc < bound64 := by
  constructor
  · rintro (⟨octets, hread⟩ | ⟨s, hread⟩)
    · cases octets with
      | nil => cases hread
      | cons b bs =>
          obtain ⟨arcs, harcs, rfl⟩ := map_eq_ok_iff.1 hread
          obtain ⟨-, hfits, rfl⟩ := readArcs_eq_ok_iff.1 harcs
          have hoctet : b.toNat < bound64 := Nat.lt_trans b.toNat_lt (by decide)
          refine ⟨by simp, ?_⟩
          rw [List.forall_mem_cons, List.forall_mem_cons, List.forall_mem_map]
          exact ⟨Nat.lt_of_le_of_lt (Nat.div_le_self _ _) hoctet,
            Nat.lt_of_le_of_lt (Nat.mod_le _ _) hoctet, hfits⟩
    · obtain ⟨numerals, -, hlength, hfits, harcs⟩ := ofText_eq_ok_iff.1 hread
      rw [harcs, List.length_map, List.forall_mem_map]
      exact ⟨hlength, hfits⟩
  · intro h
    exact Or.inr ⟨oid.text, ofText_text_iff.2 h⟩

theorem IsRead.ofText_text {oid : ObjectIdentifier} (h : oid.IsRead) : ofText oid.text = .ok oid :=
  ofText_text_iff.2 (isRead_iff.1 h)

/-- An identifier has one text, which is read as that identifier and writes its arcs without signs
and without zeros in front. -/
theorem IsRead.text_eq_iff {oid : ObjectIdentifier} (h : oid.IsRead) {s : String} :
    oid.text = s ↔
      ofText s = .ok oid ∧ ∃ arcs : List Nat, s = dotted (arcs.map Numeral.canonical) := by
  constructor
  · rintro rfl
    exact ⟨h.ofText_text, oid.arcs, text_eq_dotted oid⟩
  · rintro ⟨hread, arcs, rfl⟩
    obtain ⟨numerals, hsame, -, -, harcs⟩ := ofText_eq_ok_iff.1 hread
    have hvalues := dotted_inj hsame
    rw [map_value_canonical, ← harcs] at hvalues
    rw [text_eq_dotted, hvalues]

end Credential.Der.ObjectIdentifier
