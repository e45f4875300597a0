import Credential.Proofs.X509.Value

/-!
# Normal forms of names and extensions

Some elements are accepted in several encodings, and only one of these is written. `IsNormalForm`
says of a condition on elements that it tells this one apart, among the elements that the reader
accepts: for a relative name, that its attributes stand in the order of their encodings
(`RelativeName.isNormalForm`), and for an extension, that a false criticality is left out
(`Extension.isNormalForm`). A SEQUENCE of such elements is written back as it was if each of them is
(`IsNormalForm.map_eq_iff`), since the encodings of elements side by side tell them apart.
-/

namespace Credential.X509

variable {α : Type}

/-- Among the elements that `read?` accepts, the normal ones are those that are written back as they
were. -/
def IsNormalForm (read? : Element → Option α) (write : α → Element)
    (normal : Element → Prop) : Prop :=
  ∀ ⦃e a⦄, Der.Fits e.content → read? e = some a → (write a = e ↔ normal e)

/-! ## Lists of elements -/

/-- Elements that are read one by one are written back if each of them is. -/
theorem IsNormalForm.map_eq_iff {read? : Element → Option α} {write : α → Element}
    {normal : Element → Prop} (h : IsNormalForm read? write normal) {es : List Element}
    {as : List α} (hfits : ∀ e ∈ es, Der.Fits e.content) (has : es.mapM read? = some as) :
    as.map write = es ↔ ∀ e ∈ es, normal e := by
  induction es generalizing as with
  | nil =>
      cases has
      simp
  | cons e es ih =>
      obtain ⟨a, others, ha, hothers, rfl⟩ := mapM_cons_eq_some_iff.1 has
      obtain ⟨hfirst, hrest⟩ := List.forall_mem_cons.1 hfits
      rw [List.map_cons, List.cons.injEq, List.forall_mem_cons, h hfirst ha, ih hrest hothers]

theorem IsExact.map_eq {read? : Element → Option α} {write : α → Element} (h : IsExact read? write)
    {es : List Element} {as : List α} (has : es.mapM read? = some as) : as.map write = es := by
  induction es generalizing as with
  | nil =>
      cases has
      rfl
  | cons e es ih =>
      obtain ⟨a, others, ha, hothers, rfl⟩ := mapM_cons_eq_some_iff.1 has
      rw [List.map_cons, h ha, ih hothers]

/-! ## Names -/

namespace RelativeName

/-- Whether attributes stand in the order of their encodings. -/
def IsSorted (r : RelativeName) : Prop :=
  r.Pairwise fun a b => a.encode < b.encode

/-- A SET whose elements stand in the order of their encodings. -/
def IsNormal (e : Element) : Prop :=
  ∃ es, e.set? = some es ∧ es.Pairwise fun f g => f.encode < g.encode

/-- An attribute that is put in its place is one more, and the order is kept. -/
theorem insert?_eq_some {a : Attribute} {r sorted : RelativeName} (h : insert? a r = some sorted)
    (hr : IsSorted r) : IsSorted sorted ∧ sorted.Perm (a :: r) := by
  induction r generalizing sorted with
  | nil =>
      cases h
      exact ⟨List.pairwise_singleton _ _, .refl _⟩
  | cons b rest ih =>
      obtain ⟨hb, hrest⟩ := List.pairwise_cons.1 hr
      unfold insert? at h
      split at h
      · cases h
      · next hne =>
          split at h
          · next hlt =>
              cases h
              refine ⟨List.pairwise_cons.2 ⟨?_, hr⟩, .refl _⟩
              exact List.forall_mem_cons.2 ⟨hlt, fun c hc => List.lt_trans hlt (hb c hc)⟩
          · next hnotlt =>
              obtain ⟨tail, htail, rfl⟩ := Option.map_eq_some_iff.1 h
              obtain ⟨hsorted, hperm⟩ := ih htail hrest
              have hlt : b.encode < a.encode :=
                Std.lt_of_le_of_ne (List.not_lt.1 hnotlt) (Ne.symm hne)
              refine ⟨List.pairwise_cons.2 ⟨fun c hc => ?_, hsorted⟩, ?_⟩
              · rcases List.mem_cons.1 (hperm.mem_iff.1 hc) with rfl | hc
                · exact hlt
                · exact hb c hc
              · exact (hperm.cons b).trans (.swap a b rest)

/-- Attributes that are put in their places one after the other are all there, in order. -/
theorem foldlM_insert?_eq_some {as : List Attribute} {r sorted : RelativeName}
    (h : as.foldlM (fun sorted a => insert? a sorted) r = some sorted) (hr : IsSorted r) :
    IsSorted sorted ∧ sorted.Perm (as ++ r) := by
  induction as generalizing r with
  | nil =>
      cases h
      exact ⟨hr, .refl _⟩
  | cons a as ih =>
      rw [List.foldlM_cons] at h
      obtain ⟨next, hnext, h⟩ := Option.bind_eq_some_iff.1 h
      obtain ⟨hsortedNext, hpermNext⟩ := insert?_eq_some hnext hr
      obtain ⟨hsorted, hperm⟩ := ih h hsortedNext
      refine ⟨hsorted, hperm.trans ((hpermNext.append_left as).trans ?_)⟩
      exact List.perm_middle

/-- There is one order of given attributes. -/
theorem IsSorted.eq_of_perm {r s : RelativeName} (hr : IsSorted r) (hs : IsSorted s)
    (h : r.Perm s) : r = s :=
  h.eq_of_pairwise (fun _ _ _ _ hab hba => absurd hba (List.lt_asymm hab)) hr hs

theorem isNormalForm : IsNormalForm ofElement? toElement IsNormal := by
  intro e r hfits h
  obtain ⟨es, hes, h⟩ := Option.bind_eq_some_iff.1 h
  obtain ⟨as, has, h⟩ := Option.bind_eq_some_iff.1 h
  have hwritten : as.map Attribute.toElement = es := Attribute.isExact.map_eq has
  obtain ⟨hsorted, hperm⟩ := foldlM_insert?_eq_some h List.Pairwise.nil
  rw [List.append_nil] at hperm
  obtain ⟨rfl, -⟩ := Element.set?_eq_some_iff.1 hes
  unfold toElement
  rw [Element.set_eq_iff hfits]
  constructor
  · intro hback
    exact ⟨es, hes, hback ▸ List.pairwise_map.2 hsorted⟩
  · rintro ⟨found, hfound, hordered⟩
    rw [hes] at hfound
    cases hfound
    rw [← hwritten] at hordered
    have hattributes := List.pairwise_map.1 hordered
    rw [hsorted.eq_of_perm hattributes hperm, hwritten]

end RelativeName

namespace Name

/-- A SEQUENCE of relative names in normal form. -/
def IsNormal (e : Element) : Prop :=
  ∃ es, e.sequence? = some es ∧ ∀ f ∈ es, RelativeName.IsNormal f

theorem isNormalForm : IsNormalForm ofElement? toElement IsNormal := by
  intro e name hfits h
  obtain ⟨es, hes, hname⟩ := Option.bind_eq_some_iff.1 h
  obtain ⟨rfl, hreadable⟩ := Element.sequence?_eq_some_iff.1 hes
  unfold toElement IsNormal
  rw [Element.sequence_eq_iff hfits,
    RelativeName.isNormalForm.map_eq_iff (fun f hf => (hreadable f hf).fits) hname]
  simp [hes]

end Name

/-! ## Extensions -/

namespace Extension

/-- An Extension in which no false criticality is written. -/
def IsNormal (e : Element) : Prop :=
  ∃ es, e.sequence? = some es ∧ booleanElement false ∉ es

theorem booleanElement_ne_id (id : ObjectId) : booleanElement false ≠ id.toElement := by
  intro h
  exact absurd (congrArg Element.octet h) (by decide : (0x01 : UInt8) ≠ 0x06)

theorem booleanElement_ne_value (value : Bytes) : booleanElement false ≠ ⟨0x04, value⟩ := by
  intro h
  exact absurd (congrArg Element.octet h) (by decide : (0x01 : UInt8) ≠ 0x04)

theorem isNormalForm : IsNormalForm ofElement? toElement IsNormal := by
  intro e ext hfits h
  obtain ⟨es, hes, hfields⟩ := Option.bind_eq_some_iff.1 h
  obtain ⟨rfl, -⟩ := Element.sequence?_eq_some_iff.1 hes
  unfold toElement IsNormal
  rw [Element.sequence_eq_iff hfits, hes]
  split at hfields
  · obtain ⟨id, hid, hfields⟩ := Option.bind_eq_some_iff.1 hfields
    obtain ⟨value, hvalue, hfields⟩ := Option.bind_eq_some_iff.1 hfields
    cases hfields
    rw [← ObjectId.isExact hid, ← octetString_isExact hvalue]
    simp [flagElements, booleanElement_ne_id, booleanElement_ne_value]
  · obtain ⟨id, hid, hfields⟩ := Option.bind_eq_some_iff.1 hfields
    obtain ⟨critical, hcritical, hfields⟩ := Option.bind_eq_some_iff.1 hfields
    obtain ⟨value, hvalue, hfields⟩ := Option.bind_eq_some_iff.1 hfields
    cases hfields
    rw [← ObjectId.isExact hid, ← octetString_isExact hvalue, ← boolean_isExact hcritical]
    cases critical with
    | false => simp [flagElements]
    | true =>
        have hne : booleanElement false ≠ booleanElement true := by decide
        simp [flagElements, booleanElement_ne_id, booleanElement_ne_value, hne]
        rfl
  · cases hfields

end Extension

/-- Extensions in normal form, under an explicit tag. -/
def IsNormalExtensions (e : Element) : Prop :=
  ∃ inner es, explicitContent? 3 e = some inner ∧ inner.sequence? = some es ∧
    ∀ f ∈ es, Extension.IsNormal f

/-- The extensions under their explicit tag. -/
def extensionsElement (extensions : List Extension) : Element :=
  explicit 3 (.sequence (extensions.map Extension.toElement))

theorem extensions_isNormalForm :
    IsNormalForm (explicitContent? 3 · >>= extensions?) extensionsElement IsNormalExtensions := by
  intro e extensions hfits h
  obtain ⟨inner, hinner, hsequence⟩ := Option.bind_eq_some_iff.1 h
  obtain ⟨es, hes, hextensions⟩ := Option.bind_eq_some_iff.1 hsequence
  obtain ⟨rfl, hreadable⟩ := Element.sequence?_eq_some_iff.1 hes
  have hexplicit : explicit 3 (Element.sequence es) = e := explicit_isExact 3 hinner
  have hinnerFits : Der.Fits (encodeAll [Element.sequence es]) := by
    rw [← hexplicit] at hfits
    rwa [encodeAll_cons, encodeAll_nil, List.append_nil]
  have hcontentFits : Der.Fits (encodeAll es) := fits_of_mem hinnerFits List.mem_cons_self
  have hwritten : extensionsElement extensions = e ↔ extensions.map Extension.toElement = es := by
    unfold extensionsElement
    rw [← hexplicit]
    constructor
    · intro hback
      have hencode := congrArg Element.content hback
      exact (Element.sequence_eq_iff hcontentFits).1 (Element.encode_inj hcontentFits hencode)
    · intro hback
      rw [hback]
  rw [hwritten, Extension.isNormalForm.map_eq_iff (fun f hf => (hreadable f hf).fits) hextensions]
  simp [IsNormalExtensions, hinner, hes]

end Credential.X509
