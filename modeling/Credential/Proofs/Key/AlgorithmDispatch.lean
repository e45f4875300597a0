import Credential.Key.Pbe.Scheme
import Credential.Proofs.Der.IdentifierText

/-!
# Algorithms by their arcs

Algorithms and schemes are found by the text of an identifier. Since the text tells the arcs, each
of them has one list of arcs under which it is found (`Algorithm.ofOid_eq_ok_iff`,
`Pbe.Scheme.ofOid_eq_ok_iff`), and every other identifier is unsupported by its text, but for PBES2,
which is so by its name. `identifier_text_is_faithful` puts this together with what is known of the
text itself.
-/

namespace Credential.Key

open Der (ObjectIdentifier)
open Der.ObjectIdentifier (dotted text_inj)
open Text.Decimal (Numeral bound64)

/-- An identifier has the text of given arcs if it has these arcs. -/
theorem text_eq_iff {oid : ObjectIdentifier} {arcs : List Nat} {s : String}
    (h : ObjectIdentifier.text ⟨arcs⟩ = s) : oid.text = s ↔ oid.arcs = arcs := by
  rw [← h, text_inj]

/-! ## Key algorithms -/

namespace Algorithm

/-- The arcs of the object identifier of an algorithm. -/
def arcs : Algorithm → List Nat
  | .rsa => [1, 2, 840, 113549, 1, 1, 1]
  | .dsa => [1, 2, 840, 10040, 4, 1]

theorem text_arcs (a : Algorithm) : ObjectIdentifier.text ⟨a.arcs⟩ = a.oid := by
  cases a <;> decide +kernel

theorem ofOid_eq_ok_iff {oid : ObjectIdentifier} {a : Algorithm} :
    ofOid oid = .ok a ↔ oid.arcs = a.arcs := by
  rw [← text_eq_iff a.text_arcs]
  unfold ofOid
  constructor
  · intro h
    split at h
    · next hrsa =>
        cases h
        exact hrsa
    · split at h
      · next hdsa =>
          cases h
          exact hdsa
      · cases h
  · intro h
    rw [h]
    cases a with
    | rsa => exact if_pos rfl
    | dsa => exact (if_neg (by decide)).trans (if_pos rfl)

theorem ofOid_of_ne {oid : ObjectIdentifier} (h : ∀ a : Algorithm, oid.arcs ≠ a.arcs) :
    ofOid oid = .error (.unsupportedAlgorithm oid.text) := by
  have hne (a : Algorithm) : oid.text ≠ a.oid := fun he => h a ((text_eq_iff a.text_arcs).1 he)
  unfold ofOid
  exact (if_neg (hne .rsa)).trans (if_neg (hne .dsa))

end Algorithm

/-! ## Encryption schemes -/

namespace Pbe

/-- The arcs of the object identifier of PBES2. -/
def pbes2Arcs : List Nat := [1, 2, 840, 113549, 1, 5, 13]

theorem text_pbes2Arcs : ObjectIdentifier.text ⟨pbes2Arcs⟩ = pbes2 := by
  decide +kernel

namespace Scheme

/-- The arcs of the object identifier of a scheme. -/
def arcs : Scheme → List Nat
  | .md5Des => [1, 2, 840, 113549, 1, 5, 3]
  | .sha1Des => [1, 2, 840, 113549, 1, 5, 10]
  | .sha1TripleDes => [1, 2, 840, 113549, 1, 12, 1, 3]
  | .sha1TwoKeyTripleDes => [1, 2, 840, 113549, 1, 12, 1, 4]

theorem text_arcs (scheme : Scheme) : ObjectIdentifier.text ⟨scheme.arcs⟩ = scheme.oid := by
  cases scheme <;> decide +kernel

theorem find?_oid (scheme : Scheme) :
    all.find? (fun other => other.oid == scheme.oid) = some scheme := by
  cases scheme <;> decide

theorem oid_ne_pbes2 (scheme : Scheme) : scheme.oid ≠ pbes2 := by
  cases scheme <;> decide

theorem ofOid_eq_ok_iff {oid : ObjectIdentifier} {scheme : Scheme} :
    ofOid oid = .ok scheme ↔ oid.arcs = scheme.arcs := by
  rw [← text_eq_iff scheme.text_arcs]
  unfold ofOid
  constructor
  · intro h
    split at h
    · cases h
    · split at h
      · next hfound =>
          cases h
          have hsame := List.find?_some (p := fun other : Scheme => other.oid == oid.text) hfound
          exact (beq_iff_eq.1 hsame).symm
      · cases h
  · intro h
    rw [h, if_neg scheme.oid_ne_pbes2, find?_oid]

theorem ofOid_of_ne {oid : ObjectIdentifier} (h : ∀ scheme : Scheme, oid.arcs ≠ scheme.arcs) :
    ofOid oid = .error
      (.unsupportedAlgorithm (if oid.arcs = pbes2Arcs then "PBES2" else oid.text)) := by
  have hnone : all.find? (fun scheme => scheme.oid == oid.text) = none := by
    rw [List.find?_eq_none]
    intro scheme _ hsame
    exact h scheme ((text_eq_iff scheme.text_arcs).1 (beq_iff_eq.1 hsame).symm)
  unfold ofOid
  rw [hnone]
  by_cases hpbes2 : oid.arcs = pbes2Arcs
  · rw [if_pos hpbes2, if_pos ((text_eq_iff text_pbes2Arcs).2 hpbes2)]
  · rw [if_neg hpbes2, if_neg (mt (text_eq_iff text_pbes2Arcs).1 hpbes2)]

end Scheme

end Pbe

/-! ## The text as a key -/

/-- The text of an identifier stands for its arcs. Every identifier that is read has two arcs or
more and a text that is read as that identifier, and no other identifier has this text. The texts
that are read are the dotted forms of two numerals or more that fit 64 bits, with a plus sign or
zeros in front of any of them, and the text of what was read is the same form without these. So an
identifier agrees with a text exactly if this text is read as that identifier and has no such signs
and zeros, every algorithm and every scheme is found under one list of arcs, and every other
identifier is unsupported by its text, or as PBES2. -/
theorem identifier_text_is_faithful :
    (∀ oid : ObjectIdentifier, oid.IsRead →
      2 ≤ oid.arcs.length ∧ ObjectIdentifier.ofText oid.text = .ok oid) ∧
    (∀ oid other : ObjectIdentifier, oid.text = other.text ↔ oid.arcs = other.arcs) ∧
    (∀ (s : String) (oid : ObjectIdentifier), ObjectIdentifier.ofText s = .ok oid ↔
      ∃ numerals : List Numeral, s = dotted numerals ∧ 2 ≤ numerals.length ∧
        (∀ n ∈ numerals, n.value < bound64) ∧ oid.arcs = numerals.map Numeral.value) ∧
    (∀ (numerals : List Numeral) (oid : ObjectIdentifier),
      ObjectIdentifier.ofText (dotted numerals) = .ok oid →
        oid.text = dotted (numerals.map fun n => Numeral.canonical n.value)) ∧
    (∀ (oid : ObjectIdentifier) (s : String), oid.IsRead → (oid.text = s ↔
      ObjectIdentifier.ofText s = .ok oid ∧
        ∃ arcs : List Nat, s = dotted (arcs.map Numeral.canonical))) ∧
    (∀ (oid : ObjectIdentifier) (a : Algorithm), Algorithm.ofOid oid = .ok a ↔ oid.arcs = a.arcs) ∧
    (∀ oid : ObjectIdentifier, (∀ a : Algorithm, oid.arcs ≠ a.arcs) →
      Algorithm.ofOid oid = .error (.unsupportedAlgorithm oid.text)) ∧
    (∀ (oid : ObjectIdentifier) (scheme : Pbe.Scheme),
      Pbe.Scheme.ofOid oid = .ok scheme ↔ oid.arcs = scheme.arcs) ∧
    ∀ oid : ObjectIdentifier, (∀ scheme : Pbe.Scheme, oid.arcs ≠ scheme.arcs) →
      Pbe.Scheme.ofOid oid = .error
        (.unsupportedAlgorithm (if oid.arcs = Pbe.pbes2Arcs then "PBES2" else oid.text)) := by
  refine ⟨fun oid h => ⟨(ObjectIdentifier.isRead_iff.1 h).1, h.ofText_text⟩,
    fun oid other => text_inj, fun s oid => ObjectIdentifier.ofText_eq_ok_iff,
    fun numerals oid h => ?_,
    fun oid s h => h.text_eq_iff, fun oid a => Algorithm.ofOid_eq_ok_iff,
    fun oid => Algorithm.ofOid_of_ne, fun oid scheme => Pbe.Scheme.ofOid_eq_ok_iff,
    fun oid => Pbe.Scheme.ofOid_of_ne⟩
  obtain ⟨others, hsame, -, -, harcs⟩ := ObjectIdentifier.ofText_eq_ok_iff.1 h
  rw [ObjectIdentifier.text_eq_dotted, harcs, ← ObjectIdentifier.dotted_inj hsame, List.map_map]
  rfl

/-- The identifier of RSA from a text with signs and zeros in front, and one of no algorithm. -/
theorem identifier_text_is_faithful_signed :
    ObjectIdentifier.IsRead ⟨[1, 2, 840, 113549, 1, 1, 1]⟩ ∧
      ObjectIdentifier.ofText "+1.02.840.113549.1.1.+001" = .ok ⟨[1, 2, 840, 113549, 1, 1, 1]⟩ ∧
      ObjectIdentifier.ofText (ObjectIdentifier.text ⟨[1, 2, 840, 113549, 1, 1, 1]⟩) =
        .ok ⟨[1, 2, 840, 113549, 1, 1, 1]⟩ ∧
      (∀ a : Algorithm, [1, 3] ≠ a.arcs) ∧
      Algorithm.ofOid ⟨[1, 3]⟩ =
        .error (.unsupportedAlgorithm (ObjectIdentifier.text ⟨[1, 3]⟩)) := by
  have hother : ∀ a : Algorithm, [1, 3] ≠ a.arcs := by
    intro a
    cases a <;> decide
  have hread := (identifier_text_is_faithful.2.2.1 "+1.02.840.113549.1.1.+001"
    ⟨[1, 2, 840, 113549, 1, 1, 1]⟩).2 ⟨[⟨true, 0, 1⟩, ⟨false, 1, 2⟩, .canonical 840,
      .canonical 113549, .canonical 1, .canonical 1, ⟨true, 2, 1⟩], by decide +kernel, by decide,
      by decide, rfl⟩
  have hisRead : ObjectIdentifier.IsRead ⟨[1, 2, 840, 113549, 1, 1, 1]⟩ := Or.inr ⟨_, hread⟩
  exact ⟨hisRead, hread, (identifier_text_is_faithful.1 _ hisRead).2, hother,
    identifier_text_is_faithful.2.2.2.2.2.2.1 ⟨[1, 3]⟩ hother⟩

end Credential.Key
