import Credential.Proofs.Der.Writer
import Credential.X509.Element

/-!
# Strict elements

The strict reader accepts one encoding of an element and no other: `Element.read?_eq_some_iff` says
what it has read, `elements?_eq_some_iff` the same of all elements of a content. So what follows an
element does not matter to it (`Element.read?_append`).

Elements that are short enough for a length of four octets stand side by side without separators:
their encodings tell where each of them ends (`encodeAll_inj`), whatever their identifier octets
are.
-/

namespace Credential.X509

/-! ## Lengths -/

theorem readLength?_lengthOctets {n : Nat} (h : n < Text.Decimal.bound32) (rest : Bytes) :
    readLength? (Der.lengthOctets n ++ rest) = some (n, rest) := by
  by_cases hshort : n < 0x80
  · have hoctet : (UInt8.ofNat n).toNat = n := by
      rw [UInt8.toNat_ofNat']
      omega
    have hlt : UInt8.ofNat n < 0x80 := by
      rw [UInt8.lt_iff_toNat_lt, hoctet]
      exact hshort
    unfold Der.lengthOctets
    rw [if_pos hshort, List.singleton_append, readLength?, if_pos hlt, hoctet]
  · have hle : byteLength n ≤ 4 := Der.byteLength_le_four_iff.2 h
    have hlength : (Bytes.bigEndian (byteLength n) n).length = byteLength n :=
      Bytes.length_bigEndian _ _
    have hvalue : Bytes.toNat (Bytes.bigEndian (byteLength n) n) = n :=
      Bytes.toNat_bigEndian_of_lt (lt_pow_byteLength n)
    have hoctet : (UInt8.ofNat (0x80 + byteLength n)).toNat = 0x80 + byteLength n := by
      rw [UInt8.toNat_ofNat']
      omega
    have hlong : ¬ UInt8.ofNat (0x80 + byteLength n) < 0x80 := by
      rw [UInt8.lt_iff_toNat_lt, hoctet]
      simp
    have hoctets : Der.lengthOctets n =
        UInt8.ofNat (0x80 + byteLength n) :: Bytes.bigEndian (byteLength n) n :=
      if_neg hshort
    have hdigits : (Bytes.bigEndian (byteLength n) n ++ rest).take (byteLength n) =
        Bytes.bigEndian (byteLength n) n := List.take_left' hlength
    rw [hoctets, List.cons_append, readLength?, if_neg hlong, hoctet, Nat.add_sub_cancel_left]
    dsimp only
    rw [hdigits, hvalue, if_pos ⟨hle, hoctets⟩, List.drop_left' hlength]

theorem readLength?_eq_some_iff {input rest : Bytes} {n : Nat} :
    readLength? input = some (n, rest) ↔
      input = Der.lengthOctets n ++ rest ∧ n < Text.Decimal.bound32 := by
  constructor
  · intro h
    cases input with
    | nil => simp [readLength?] at h
    | cons b tail =>
        rw [readLength?] at h
        split at h
        · next hshort =>
            obtain ⟨rfl, rfl⟩ := Prod.mk.inj (Option.some.inj h)
            have hlt : b.toNat < 0x80 := UInt8.lt_iff_toNat_lt.1 hshort
            have hoctets : Der.lengthOctets b.toNat = [b] := by
              unfold Der.lengthOctets
              rw [if_pos hlt, UInt8.ofNat_toNat]
            have hbound : (0x80 : Nat) < Text.Decimal.bound32 := by decide
            exact ⟨by rw [hoctets]; rfl, by omega⟩
        · dsimp only at h
          split at h
          · next hdigits =>
              obtain ⟨rfl, rfl⟩ := Prod.mk.inj (Option.some.inj h)
              obtain ⟨hcount, hoctets⟩ := hdigits
              refine ⟨?_, ?_⟩
              · rw [hoctets, List.cons_append, List.take_append_drop]
              · have hwidth := byteLength_le_iff.2 (Bytes.toNat_lt_pow (tail.take (b.toNat - 0x80)))
                have hle : (tail.take (b.toNat - 0x80)).length ≤ 4 := by
                  rw [List.length_take]
                  omega
                exact Der.byteLength_le_four_iff.1 (Nat.le_trans hwidth hle)
          · cases h
  · rintro ⟨rfl, hfits⟩
    exact readLength?_lengthOctets hfits rest

/-! ## Elements -/

namespace Element

/-- What the reader knows of an element: its octet identifies elements, and the length of its
content has at most four octets. -/
structure IsReadable (e : Element) : Prop where
  identifier : isIdentifier e.octet = true
  fits : Der.Fits e.content

theorem encode_append (e : Element) (rest : Bytes) :
    e.encode ++ rest = e.octet :: (Der.lengthOctets e.content.length ++ (e.content ++ rest)) := by
  unfold encode Der.element
  rw [List.cons_append, List.append_assoc]

theorem encode_ne_nil (e : Element) : e.encode ≠ [] :=
  List.cons_ne_nil _ _

theorem length_content_lt (e : Element) : e.content.length < e.encode.length := by
  unfold encode Der.element
  rw [List.length_cons, List.length_append]
  omega

/-- The reader accepts the encoding of the element it gives. -/
theorem read?_eq_some_iff {input rest : Bytes} {e : Element} :
    read? input = some (e, rest) ↔ input = e.encode ++ rest ∧ e.IsReadable := by
  constructor
  · intro h
    cases input with
    | nil => simp [read?] at h
    | cons b tail =>
        rw [read?] at h
        split at h
        · cases h
        · next length after hlength =>
            dsimp only at h
            split at h
            · next hcontent =>
                obtain ⟨rfl, rfl⟩ := Prod.mk.inj (Option.some.inj h)
                obtain ⟨hoctets, hfits⟩ := readLength?_eq_some_iff.1 hlength
                refine ⟨?_, hcontent.1, ?_⟩
                · rw [encode_append]
                  dsimp only
                  rw [hcontent.2, List.take_append_drop, hoctets]
                · unfold Der.Fits
                  rwa [hcontent.2]
            · cases h
  · rintro ⟨rfl, hidentifier, hfits⟩
    have hcontent : (e.content ++ rest).take e.content.length = e.content := List.take_left
    rw [encode_append, read?, readLength?_lengthOctets hfits]
    dsimp only
    rw [hcontent, List.drop_left, if_pos ⟨hidentifier, rfl⟩]

/-- What follows an element stays unread. -/
theorem read?_append {input rest : Bytes} {e : Element} (h : read? input = some (e, rest))
    (others : Bytes) : read? (input ++ others) = some (e, rest ++ others) := by
  obtain ⟨rfl, hreadable⟩ := read?_eq_some_iff.1 h
  exact read?_eq_some_iff.2 ⟨List.append_assoc _ _ _, hreadable⟩

/-- The encoding of an element tells where it ends. -/
theorem encode_append_inj {e f : Element} {rest others : Bytes} (he : Der.Fits e.content)
    (hf : Der.Fits f.content) (h : e.encode ++ rest = f.encode ++ others) :
    e = f ∧ rest = others := by
  rw [encode_append, encode_append] at h
  obtain ⟨hoctet, htail⟩ := List.cons.inj h
  have hread := readLength?_lengthOctets he (e.content ++ rest)
  rw [htail, readLength?_lengthOctets hf] at hread
  obtain ⟨hlength, hcontents⟩ := Prod.mk.inj (Option.some.inj hread)
  obtain ⟨hcontent, hrest⟩ := List.append_inj hcontents hlength
  refine ⟨?_, hrest.symm⟩
  cases e
  cases f
  simp only at hoctet hcontent
  rw [hoctet, hcontent]

/-- A content that does not fit makes the whole encoding longer than one that does. -/
theorem fits_of_length_encode {e f : Element} (hf : Der.Fits f.content)
    (h : e.encode.length ≤ f.encode.length) : Der.Fits e.content := by
  have hlength (g : Element) :
      g.encode.length = (Der.lengthOctets g.content.length).length + g.content.length + 1 := by
    unfold encode Der.element
    rw [List.length_cons, List.length_append]
  have hshort : (Der.lengthOctets f.content.length).length ≤ 5 := by
    have hle : byteLength f.content.length ≤ 4 := Der.byteLength_le_four_iff.2 hf
    unfold Der.lengthOctets
    split
    · simp
    · rw [List.length_cons, Bytes.length_bigEndian]
      omega
  apply Nat.lt_of_not_le
  intro hlarge
  have hlong : 6 ≤ (Der.lengthOctets e.content.length).length := by
    have hdigits : 4 < byteLength e.content.length := by
      apply Nat.lt_of_not_le
      intro hle
      exact absurd (Der.byteLength_le_four_iff.1 hle) (Nat.not_lt_of_le hlarge)
    unfold Der.lengthOctets
    have hbound : (0x80 : Nat) < Text.Decimal.bound32 := by decide
    rw [if_neg (by omega), List.length_cons, Bytes.length_bigEndian]
    omega
  have hfits : f.content.length < Text.Decimal.bound32 := hf
  rw [hlength, hlength] at h
  omega

theorem encode_inj {e f : Element} (hf : Der.Fits f.content) (h : e.encode = f.encode) : e = f := by
  have he : Der.Fits e.content := fits_of_length_encode hf (Nat.le_of_eq (congrArg _ h))
  have happend : e.encode ++ [] = f.encode ++ [] := by rw [h]
  exact (encode_append_inj he hf happend).1

end Element

/-! ## Elements side by side -/

@[simp] theorem encodeAll_nil : encodeAll [] = [] := rfl

@[simp] theorem encodeAll_cons (e : Element) (es : List Element) :
    encodeAll (e :: es) = e.encode ++ encodeAll es := List.flatMap_cons

/-- Elements are no longer than what they stand in. -/
theorem fits_of_mem {e : Element} {es : List Element} (h : Der.Fits (encodeAll es))
    (hmem : e ∈ es) : Der.Fits e.content := by
  induction es with
  | nil => cases hmem
  | cons f es ih =>
      have hlength : (encodeAll (f :: es)).length = f.encode.length + (encodeAll es).length := by
        rw [encodeAll_cons, List.length_append]
      unfold Der.Fits at h
      rcases List.mem_cons.1 hmem with rfl | hmem
      · have hlt := e.length_content_lt
        exact Nat.lt_trans (by omega) h
      · exact ih (Nat.lt_of_le_of_lt (by omega) h) hmem

/-- The encodings of elements tell them apart. -/
theorem encodeAll_inj {es fs : List Element} (hfits : Der.Fits (encodeAll fs))
    (h : encodeAll es = encodeAll fs) : es = fs := by
  induction es generalizing fs with
  | nil =>
      cases fs with
      | nil => rfl
      | cons f fs => exact absurd (List.append_eq_nil_iff.1 h.symm).1 f.encode_ne_nil
  | cons e es ih =>
      have hefits : Der.Fits e.content := fits_of_mem (h ▸ hfits) List.mem_cons_self
      cases fs with
      | nil => exact absurd (List.append_eq_nil_iff.1 h).1 e.encode_ne_nil
      | cons f fs =>
          obtain ⟨rfl, hrest⟩ :=
            Element.encode_append_inj hefits (fits_of_mem hfits List.mem_cons_self) h
          have hle : (encodeAll fs).length ≤ (encodeAll (e :: fs)).length := by
            rw [encodeAll_cons, List.length_append]
            omega
          rw [ih (Nat.lt_of_le_of_lt hle hfits) hrest]

/-- A content is read as the elements whose encodings it is made of. -/
theorem elements?_eq_some_iff {content : Bytes} {es : List Element} :
    elements? content = some es ↔ content = encodeAll es ∧ ∀ e ∈ es, e.IsReadable := by
  constructor
  · intro h
    -- along the recursion of the reader, which takes one element off
    induction content using elements?.induct generalizing es with
    | case1 =>
        rw [elements?, if_pos rfl] at h
        cases h
        exact ⟨rfl, fun e he => by cases he⟩
    | case2 content hne hread =>
        rw [elements?, if_neg hne] at h
        split at h
        · cases h
        · next e rest hfound =>
            rw [hfound] at hread
            cases hread
    | case3 content hne e rest hread ih =>
        rw [elements?, if_neg hne] at h
        split at h
        · cases h
        · next f others hfound =>
            rw [hfound] at hread
            cases hread
            obtain ⟨tail, htail, rfl⟩ := Option.map_eq_some_iff.1 h
            obtain ⟨hcontent, hreadable⟩ := ih htail
            obtain ⟨hinput, hfirst⟩ := Element.read?_eq_some_iff.1 hfound
            refine ⟨?_, List.forall_mem_cons.2 ⟨hfirst, hreadable⟩⟩
            rw [hinput, hcontent, encodeAll_cons]
  · rintro ⟨rfl, hreadable⟩
    induction es with
    | nil => rw [encodeAll_nil, elements?, if_pos rfl]
    | cons e es ih =>
        obtain ⟨hfirst, hothers⟩ := List.forall_mem_cons.1 hreadable
        have hne : e.encode ++ encodeAll es ≠ [] := by simp [e.encode_ne_nil]
        have hread : Element.read? (e.encode ++ encodeAll es) = some (e, encodeAll es) :=
          Element.read?_eq_some_iff.2 ⟨rfl, hfirst⟩
        rw [encodeAll_cons, elements?, if_neg hne]
        split
        · next hnone =>
            rw [hread] at hnone
            cases hnone
        · next f rest hfound =>
            rw [hread] at hfound
            cases hfound
            rw [ih hothers]
            rfl

/-! ## Constructed elements -/

namespace Element

variable {e : Element} {es fs : List Element}

/-- Under one identifier octet, an element is read as the elements it was written with. -/
theorem constructed?_eq_some_iff {octet : UInt8} :
    (if e.octet = octet then elements? e.content else none) = some es ↔
      e = ⟨octet, encodeAll es⟩ ∧ ∀ f ∈ es, f.IsReadable := by
  obtain ⟨found, content⟩ := e
  by_cases hoctet : found = octet
  · rw [if_pos hoctet, elements?_eq_some_iff, hoctet]
    simp
  · rw [if_neg hoctet]
    simp [hoctet]

theorem sequence?_eq_some_iff :
    e.sequence? = some es ↔ e = sequence es ∧ ∀ f ∈ es, f.IsReadable :=
  constructed?_eq_some_iff

theorem set?_eq_some_iff : e.set? = some es ↔ e = set es ∧ ∀ f ∈ es, f.IsReadable :=
  constructed?_eq_some_iff

/-- Under one identifier octet, an element tells the elements it was written with. -/
theorem constructed_eq_iff {octet : UInt8} (hfits : Der.Fits (encodeAll fs)) :
    (⟨octet, encodeAll es⟩ : Element) = ⟨octet, encodeAll fs⟩ ↔ es = fs := by
  constructor
  · intro h
    exact encodeAll_inj hfits (congrArg content h)
  · rintro rfl
    rfl

theorem sequence_eq_iff (hfits : Der.Fits (encodeAll fs)) : sequence es = sequence fs ↔ es = fs :=
  constructed_eq_iff hfits

theorem set_eq_iff (hfits : Der.Fits (encodeAll fs)) : set es = set fs ↔ es = fs :=
  constructed_eq_iff hfits

end Element

end Credential.X509
