import Credential.Proofs.X509.NormalForm

/-!
# Reading what was written

What a reader gives is written in normal form, and the reader accepts the normal form and gives the
same value again (`IsReread`). For a value with one encoding this is the encoding it was read from
(`IsExact.isReread`). A name is written with its attributes in order, and putting attributes in
order does not move them once they are (`RelativeName.foldlM_insert?_of_isSorted`); an extension
loses a false criticality.

A reader gives up on contents whose length takes more than four octets, so something has to be said
of lengths too: what is written is never longer than what was read (`Replaces`).
-/

namespace Credential.X509

variable {α : Type}

/-! ## Elements in the place of others -/

theorem length_lengthOctets_mono {n m : Nat} (h : n ≤ m) :
    (Der.lengthOctets n).length ≤ (Der.lengthOctets m).length := by
  have hbytes : byteLength n ≤ byteLength m :=
    byteLength_le_iff.2 (Nat.lt_of_le_of_lt h (lt_pow_byteLength m))
  have hlength (k : Nat) :
      (Der.lengthOctets k).length = if k < 0x80 then 1 else byteLength k + 1 := by
    unfold Der.lengthOctets
    split
    · rfl
    · rw [List.length_cons, Bytes.length_bigEndian]
  rw [hlength, hlength]
  split
  · split
    · exact Nat.le_refl 1
    · exact Nat.le_add_left 1 _
  · next hlong =>
      rw [if_neg fun hshort => hlong (Nat.lt_of_le_of_lt h hshort)]
      exact Nat.succ_le_succ hbytes

theorem Element.length_encode_mono {e f : Element} (h : e.content.length ≤ f.content.length) :
    e.encode.length ≤ f.encode.length := by
  have hlengths := length_lengthOctets_mono h
  unfold encode Der.element
  simp only [List.length_cons, List.length_append]
  omega

/-- Elements that can be written in the place of others: the reader knows each of them, and together
they are no longer. -/
structure Replaces (written es : List Element) : Prop where
  isReadable : ∀ e ∈ written, e.IsReadable
  length_le : (encodeAll written).length ≤ (encodeAll es).length

namespace Replaces

variable {written others es fs : List Element} {e f : Element}

theorem nil (es : List Element) : Replaces [] es :=
  ⟨List.forall_mem_nil _, Nat.zero_le _⟩

theorem refl (h : ∀ e ∈ es, e.IsReadable) : Replaces es es :=
  ⟨h, Nat.le_refl _⟩

theorem trans (h : Replaces written es) (hes : Replaces es fs) : Replaces written fs :=
  ⟨h.isReadable, Nat.le_trans h.length_le hes.length_le⟩

theorem append (h : Replaces written es) (hothers : Replaces others fs) :
    Replaces (written ++ others) (es ++ fs) := by
  refine ⟨fun e he => (List.mem_append.1 he).elim (h.isReadable e) (hothers.isReadable e), ?_⟩
  unfold encodeAll
  rw [List.flatMap_append, List.flatMap_append, List.length_append, List.length_append]
  exact Nat.add_le_add h.length_le hothers.length_le

theorem cons (h : Replaces [e] [f]) (hothers : Replaces others fs) :
    Replaces (e :: others) (f :: fs) :=
  h.append hothers

/-- Elements may be left out. -/
theorem of_sublist (h : written.Sublist es) (hreadable : ∀ e ∈ es, e.IsReadable) :
    Replaces written es := by
  induction h with
  | slnil => exact nil []
  | cons f _ ih => exact (nil [f]).append (ih fun e he => hreadable e (List.mem_cons_of_mem f he))
  | cons_cons f _ ih =>
      obtain ⟨hfirst, hothers⟩ := List.forall_mem_cons.1 hreadable
      exact (refl (List.forall_mem_singleton.2 hfirst)).cons (ih hothers)

/-- Elements may be put in another order. -/
theorem of_perm (h : written.Perm es) (hreadable : ∀ e ∈ es, e.IsReadable) :
    Replaces written es :=
  ⟨fun e he => hreadable e (h.mem_iff.1 he), Nat.le_of_eq (h.flatMap_right _).length_eq⟩

/-- What stands in an element may be replaced. -/
theorem wrap {octet : UInt8} (h : Replaces written es)
    (hreadable : (⟨octet, encodeAll es⟩ : Element).IsReadable) :
    Replaces [⟨octet, encodeAll written⟩] [⟨octet, encodeAll es⟩] := by
  refine ⟨List.forall_mem_singleton.2 ⟨hreadable.identifier, ?_⟩, ?_⟩
  · exact Nat.lt_of_le_of_lt h.length_le hreadable.fits
  · rw [encodeAll_cons, encodeAll_cons, encodeAll_nil, List.append_nil, List.append_nil]
    exact Element.length_encode_mono h.length_le

end Replaces

theorem sequence?_sequence {es : List Element} (h : ∀ e ∈ es, e.IsReadable) :
    (Element.sequence es).sequence? = some es :=
  Element.sequence?_eq_some_iff.2 ⟨rfl, h⟩

theorem set?_set {es : List Element} (h : ∀ e ∈ es, e.IsReadable) :
    (Element.set es).set? = some es :=
  Element.set?_eq_some_iff.2 ⟨rfl, h⟩

/-! ## Values that are read again -/

/-- What `read?` gives is written by `write` as an element that can stand in the place of the one
that was read, and `read?` gives it again. -/
def IsReread (read? : Element → Option α) (write : α → Element) : Prop :=
  ∀ ⦃e a⦄, e.IsReadable → read? e = some a → Replaces [write a] [e] ∧ read? (write a) = some a

variable {read? : Element → Option α} {write : α → Element}

theorem IsExact.isReread (h : IsExact read? write) : IsReread read? write := by
  intro e a he ha
  rw [h ha]
  exact ⟨.refl (List.forall_mem_singleton.2 he), ha⟩

/-- Elements that are read one by one are replaced one by one. -/
theorem IsReread.map (h : IsReread read? write) {es : List Element} {as : List α}
    (hreadable : ∀ e ∈ es, e.IsReadable) (has : es.mapM read? = some as) :
    Replaces (as.map write) es ∧ ∀ a ∈ as, read? (write a) = some a := by
  induction es generalizing as with
  | nil =>
      cases has
      exact ⟨.nil _, fun a ha => (List.not_mem_nil ha).elim⟩
  | cons e es ih =>
      obtain ⟨a, others, ha, hothers, rfl⟩ := mapM_cons_eq_some_iff.1 has
      obtain ⟨hfirst, hrest⟩ := List.forall_mem_cons.1 hreadable
      obtain ⟨hreplaces, hagain⟩ := h hfirst ha
      obtain ⟨hreplacesOthers, hagainOthers⟩ := ih hrest hothers
      exact ⟨hreplaces.cons hreplacesOthers, List.forall_mem_cons.2 ⟨hagain, hagainOthers⟩⟩

/-- A SEQUENCE is read again if what it holds is. -/
theorem Replaces.sequence {written es : List Element} (h : Replaces written es)
    (he : (Element.sequence es).IsReadable) {fields? : List Element → Option α} {a : α}
    (hagain : fields? written = some a) :
    Replaces [Element.sequence written] [Element.sequence es] ∧
      (Element.sequence written).sequence? >>= fields? = some a :=
  ⟨h.wrap he, Option.bind_eq_some_iff.2 ⟨written, sequence?_sequence h.isReadable, hagain⟩⟩

theorem IsReread.sequenceOf (h : IsReread read? write) :
    IsReread (fun e => e.sequence? >>= List.mapM read?) fun as => .sequence (as.map write) := by
  intro e as he hread
  obtain ⟨es, hes, has⟩ := Option.bind_eq_some_iff.1 hread
  obtain ⟨rfl, hreadable⟩ := Element.sequence?_eq_some_iff.1 hes
  obtain ⟨hreplaces, hagain⟩ := h.map hreadable has
  exact hreplaces.sequence he (mapM_map_eq_some hagain)

/-- An explicit tag holds one element. -/
theorem explicitContent?_eq_some_iff {number : UInt8} {e inner : Element} :
    explicitContent? number e = some inner ↔ e = explicit number inner ∧ inner.IsReadable := by
  constructor
  · intro h
    refine ⟨(explicit_isExact number h).symm, ?_⟩
    unfold explicitContent? at h
    split at h
    · cases h
    · obtain ⟨es, hes, h⟩ := Option.bind_eq_some_iff.1 h
      split at h
      · cases h
        exact (elements?_eq_some_iff.1 hes).2 _ List.mem_cons_self
      · cases h
  · rintro ⟨rfl, hreadable⟩
    have hinner : elements? (explicit number inner).content = some [inner] :=
      elements?_eq_some_iff.2
        ⟨(List.append_nil _).symm, List.forall_mem_singleton.2 hreadable⟩
    have hoctet : ¬ (explicit number inner).octet ≠ explicitOctet number := not_not_intro rfl
    unfold explicitContent?
    rw [if_neg hoctet, hinner]
    rfl

/-- A value under an explicit tag. -/
theorem IsReread.explicit (h : IsReread read? write) (number : UInt8) :
    IsReread (explicitContent? number · >>= read?) fun a => explicit number (write a) := by
  intro e a he hread
  obtain ⟨inner, hinner, ha⟩ := Option.bind_eq_some_iff.1 hread
  obtain ⟨rfl, hreadable⟩ := explicitContent?_eq_some_iff.1 hinner
  obtain ⟨hreplaces, hagain⟩ := h hreadable ha
  -- an explicit tag holds a list of one element
  have hone (f : Element) :
      (⟨explicitOctet number, encodeAll [f]⟩ : Element) = X509.explicit number f := by
    rw [encodeAll_cons, encodeAll_nil, List.append_nil]
    rfl
  have hwrap : Replaces [⟨explicitOctet number, encodeAll [write a]⟩]
      [⟨explicitOctet number, encodeAll [inner]⟩] := hreplaces.wrap (by rwa [hone])
  rw [hone, hone] at hwrap
  refine ⟨hwrap, Option.bind_eq_some_iff.2 ⟨_, explicitContent?_eq_some_iff.2 ⟨rfl, ?_⟩, hagain⟩⟩
  exact hreplaces.isReadable _ List.mem_cons_self

/-- A value that may be absent. -/
theorem IsReread.optional (h : IsReread read? write) {e : Option Element} {a : Option α}
    (hreadable : ∀ f ∈ e.toList, f.IsReadable) (ha : optional? read? e = some a) :
    Replaces (a.map write).toList e.toList ∧ optional? read? (a.map write) = some a := by
  cases e with
  | none =>
      cases ha
      exact ⟨.nil _, rfl⟩
  | some e =>
      obtain ⟨found, hfound, rfl⟩ := Option.map_eq_some_iff.1 ha
      obtain ⟨hreplaces, hagain⟩ := h (hreadable e List.mem_cons_self) hfound
      exact ⟨hreplaces, Option.map_eq_some_iff.2 ⟨found, hagain, rfl⟩⟩

/-! ## Names -/

namespace RelativeName

/-- An attribute that is greater than all others comes last. -/
theorem insert?_of_forall_lt {a : Attribute} {r : RelativeName}
    (h : ∀ b ∈ r, b.encode < a.encode) : insert? a r = some (r ++ [a]) := by
  induction r with
  | nil => rfl
  | cons b r ih =>
      obtain ⟨hb, hothers⟩ := List.forall_mem_cons.1 h
      have hne : a.encode ≠ b.encode := fun heq => List.lt_irrefl _ (heq ▸ hb)
      unfold insert?
      rw [if_neg hne, if_neg (List.lt_asymm hb), ih hothers]
      rfl

/-- Attributes in order are put in their places as they are. -/
theorem foldlM_insert?_of_isSorted {as : List Attribute} {r : RelativeName}
    (h : IsSorted (r ++ as)) :
    as.foldlM (fun sorted a => insert? a sorted) r = some (r ++ as) := by
  induction as generalizing r with
  | nil => rw [List.append_nil]; rfl
  | cons a as ih =>
      have hlast : ∀ b ∈ r, b.encode < a.encode := fun b hb =>
        (List.pairwise_append.1 h).2.2 b hb a List.mem_cons_self
      rw [List.append_cons] at h ⊢
      rw [List.foldlM_cons, insert?_of_forall_lt hlast]
      exact ih h

theorem isReread : IsReread ofElement? toElement := by
  intro e r he h
  obtain ⟨es, hes, h⟩ := Option.bind_eq_some_iff.1 h
  obtain ⟨as, has, hfold⟩ := Option.bind_eq_some_iff.1 h
  obtain ⟨rfl, hreadable⟩ := Element.set?_eq_some_iff.1 hes
  obtain ⟨hsorted, hperm⟩ := foldlM_insert?_eq_some hfold List.Pairwise.nil
  rw [List.append_nil] at hperm
  obtain ⟨-, hagain⟩ := Attribute.isExact.isReread.map hreadable has
  -- the attributes are written as they were read, but in another order
  have hordered : Replaces (r.map Attribute.toElement) es := by
    refine .of_perm ?_ hreadable
    rw [← Attribute.isExact.map_eq has]
    exact hperm.map _
  refine ⟨hordered.wrap he, ?_⟩
  unfold ofElement? toElement
  rw [set?_set hordered.isReadable]
  dsimp only [bind, Option.bind]
  rw [mapM_map_eq_some fun a ha => hagain a (hperm.mem_iff.1 ha)]
  exact foldlM_insert?_of_isSorted hsorted

end RelativeName

theorem Name.isReread : IsReread Name.ofElement? Name.toElement :=
  RelativeName.isReread.sequenceOf

/-! ## Extensions -/

namespace Extension

/-- The elements that an extension is written as. -/
def fields (ext : Extension) : List Element :=
  ext.id.toElement :: (flagElements ext.critical ++ [⟨0x04, ext.value⟩])

/-- The elements of an extension are written again, but for a false criticality. -/
theorem sublist_of_ofElement? {e : Element} {es : List Element} {ext : Extension}
    (hes : e.sequence? = some es) (h : ofElement? e = some ext) :
    ext.fields.Sublist es ∧ ObjectId.ofElement? ext.id.toElement = some ext.id := by
  obtain ⟨found, hfound, hfields⟩ := Option.bind_eq_some_iff.1 h
  obtain rfl : es = found := Option.some.inj (hes.symm.trans hfound)
  split at hfields
  · obtain ⟨id, hid, hfields⟩ := Option.bind_eq_some_iff.1 hfields
    obtain ⟨value, hvalue, hfields⟩ := Option.bind_eq_some_iff.1 hfields
    cases hfields
    rw [← ObjectId.isExact hid, ← octetString_isExact hvalue]
    exact ⟨.refl _, by rw [ObjectId.isExact hid, hid]⟩
  · obtain ⟨id, hid, hfields⟩ := Option.bind_eq_some_iff.1 hfields
    obtain ⟨critical, hcritical, hfields⟩ := Option.bind_eq_some_iff.1 hfields
    obtain ⟨value, hvalue, hfields⟩ := Option.bind_eq_some_iff.1 hfields
    cases hfields
    rw [← ObjectId.isExact hid, ← octetString_isExact hvalue, ← boolean_isExact hcritical]
    refine ⟨?_, by rw [ObjectId.isExact hid, hid]⟩
    cases critical with
    | false => exact (List.sublist_cons_self _ _).cons_cons _
    | true => exact .refl _
  · cases hfields

theorem isReread : IsReread ofElement? toElement := by
  intro e ext he h
  obtain ⟨es, hes, -⟩ := Option.bind_eq_some_iff.1 h
  obtain ⟨hsublist, hid⟩ := sublist_of_ofElement? hes h
  obtain ⟨rfl, hreadable⟩ := Element.sequence?_eq_some_iff.1 hes
  refine (Replaces.of_sublist hsublist hreadable).sequence he ?_
  obtain ⟨id, critical, value⟩ := ext
  have hvalue : octetString? ⟨0x04, value⟩ = some value := rfl
  cases critical with
  | false => simp [fields, flagElements, hid, hvalue]
  | true =>
      have hcritical : boolean? ⟨0x01, [0xFF]⟩ = some true := rfl
      simp [fields, flagElements, hid, hcritical, hvalue]

end Extension

theorem extensions_isReread :
    IsReread (explicitContent? 3 · >>= extensions?) extensionsElement :=
  Extension.isReread.sequenceOf.explicit 3

end Credential.X509
