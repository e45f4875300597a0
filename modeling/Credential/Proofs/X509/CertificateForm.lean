import Credential.Proofs.X509.NormalForm

/-!
# The normal form of a certificate

A certificate is written in normal form, which need not be the form it was read in. The reader
leaves four things open, and `SignedCertificate.IsNormal` says of an element that none of them is
used:

* the attributes of a relative name may stand in any order;
* a false criticality of an extension may be written out;
* so may the first version;
* context-specific elements that are not known may stand between those that are.

For the elements that the reader accepts, being normal is the same as being written back as they
were (`SignedCertificate.isNormalForm`).
-/

namespace Credential.X509

/-! ## Elements under context-specific tags -/

/-- How `takeTagged number` takes elements apart: those under smaller numbers are passed over, the
next one is taken if it has the number, and what is left then begins with a larger number. -/
structure Takes (number : UInt8) (es passed : List Element) (taken : Option Element)
    (rest : List Element) : Prop where
  split : es = passed ++ (taken.toList ++ rest)
  passed_lt : ∀ e ∈ passed, e.isContext = true ∧ e.number < number
  taken_eq : ∀ e, taken = some e → e.isContext = true ∧ e.number = number
  rest_gt : taken = none → ∀ e others, rest = e :: others → e.isContext = true → number < e.number

theorem exists_takes_of_takeTagged {number : UInt8} {es rest : List Element}
    {taken : Option Element} (h : takeTagged number es = (taken, rest)) :
    ∃ passed, Takes number es passed taken rest := by
  have hpassed : ∀ e ∈ es.takeWhile fun e => e.isContext && e.number < number,
      e.isContext = true ∧ e.number < number := by
    intro e he
    have hsmall := List.all_eq_true.1 List.all_takeWhile e he
    simpa using hsmall
  have hsplit := List.takeWhile_append_dropWhile (p := fun e : Element =>
    e.isContext && e.number < number) (l := es)
  refine ⟨es.takeWhile fun e => e.isContext && e.number < number, ?_⟩
  unfold takeTagged at h
  split at h
  · next hdrop =>
      cases h
      refine ⟨by rw [hdrop] at hsplit; exact hsplit.symm, hpassed, ?_, ?_⟩
      · intro e he
        cases he
      · intro _ e others he
        cases he
  · next first others hdrop =>
      -- the first element that is not passed over is no context element below the number
      have hfirst : (first.isContext && first.number < number) = false := by
        have hhead := List.head?_dropWhile_not (fun e : Element =>
          e.isContext && e.number < number) es
        rw [hdrop] at hhead
        simpa using hhead
      split at h
      · next htagged =>
          cases h
          refine ⟨by rw [hdrop] at hsplit; exact hsplit.symm, hpassed, ?_, ?_⟩
          · rintro e he
            cases he
            exact htagged
          · intro hnone
            cases hnone
      · next htagged =>
          cases h
          refine ⟨by rw [hdrop] at hsplit; exact hsplit.symm, hpassed, ?_, ?_⟩
          · intro e he
            cases he
          · rintro - e rest he hcontext
            cases he
            rw [hcontext, Bool.true_and, decide_eq_false_iff_not] at hfirst
            have hne : first.number ≠ number := fun heq => htagged ⟨hcontext, heq⟩
            exact Std.lt_of_le_of_ne (Std.not_lt.1 hfirst) (Ne.symm hne)

namespace Takes

variable {number : UInt8} {es passed rest : List Element} {taken : Option Element}

/-- If what is left is under context-specific tags, so is all of it. -/
theorem isContext (h : Takes number es passed taken rest)
    (hrest : ∀ e ∈ rest, e.isContext = true) : ∀ e ∈ es, e.isContext = true := by
  intro e he
  rw [h.split] at he
  rcases List.mem_append.1 he with hpassed | he
  · exact (h.passed_lt e hpassed).1
  · rcases List.mem_append.1 he with htaken | hmem
    · exact (h.taken_eq e (Option.mem_toList.1 htaken)).1
    · exact hrest e hmem

/-- Numbers above `low` that ascend leave nothing to pass over, and they go on above the number that
is taken next. -/
theorem ascending_iff (h : Takes number es passed taken rest) {low : UInt8}
    (hlow : number.toNat = low.toNat + 1) (hrest : ∀ e ∈ rest, e.isContext = true) :
    (low :: es.map Element.number).Pairwise (· < ·) ↔
      es = taken.toList ++ rest ∧ (number :: rest.map Element.number).Pairwise (· < ·) := by
  have hnext (m : UInt8) : low < m ↔ number ≤ m := by
    rw [UInt8.lt_iff_toNat_lt, UInt8.le_iff_toNat_le]
    omega
  constructor
  · intro hascending
    obtain ⟨hover, hpairs⟩ := List.pairwise_cons.1 hascending
    have hpassed : passed = [] := by
      apply List.eq_nil_iff_forall_not_mem.2
      intro e he
      have hmem : e.number ∈ es.map Element.number :=
        List.mem_map_of_mem (by rw [h.split]; exact List.mem_append_left _ he)
      exact absurd (h.passed_lt e he).2 (Std.not_lt.2 ((hnext _).1 (hover _ hmem)))
    have hes : es = taken.toList ++ rest := by
      have hsplit := h.split
      rwa [hpassed, List.nil_append] at hsplit
    refine ⟨hes, ?_⟩
    rw [hes] at hpairs
    cases taken with
    | some t =>
        rw [← (h.taken_eq t rfl).2]
        exact hpairs
    | none =>
        refine List.pairwise_cons.2 ⟨?_, hpairs⟩
        cases rest with
        | nil => simp
        | cons first others =>
            have hfirst : number < first.number :=
              h.rest_gt rfl first others rfl (hrest first List.mem_cons_self)
            obtain ⟨hlater, -⟩ := List.pairwise_cons.1 hpairs
            exact List.forall_mem_cons.2 ⟨hfirst, fun m hm => Std.lt_trans hfirst (hlater m hm)⟩
  · rintro ⟨hes, hascending⟩
    obtain ⟨hover, hpairs⟩ := List.pairwise_cons.1 hascending
    have hlower : ∀ m ∈ rest.map Element.number, low < m :=
      fun m hm => (hnext m).2 (Std.le_of_lt (hover m hm))
    rw [hes]
    cases taken with
    | none => exact List.pairwise_cons.2 ⟨hlower, hpairs⟩
    | some t =>
        have ht : t.number = number := (h.taken_eq t rfl).2
        have hlowt : low < t.number := (hnext _).2 (by rw [ht]; exact Std.le_refl _)
        refine List.pairwise_cons.2 ⟨List.forall_mem_cons.2 ⟨hlowt, hlower⟩, ?_⟩
        exact List.pairwise_cons.2 ⟨fun m hm => by rw [ht]; exact hover m hm, hpairs⟩

/-- Nothing is passed over if nothing is missing. -/
theorem rest_eq (h : Takes number es passed taken rest) {others : List Element}
    (hle : others.length ≤ rest.length) (hes : es = taken.toList ++ others) : others = rest := by
  have hlength := congrArg List.length (h.split.symm.trans hes)
  simp only [List.length_append] at hlength
  have hpassed : passed = [] := List.length_eq_zero_iff.1 (by omega)
  have hsplit := h.split
  rw [hpassed, List.nil_append, hes] at hsplit
  exact List.append_cancel_left hsplit

end Takes

/-- Elements under the numbers 1, 2 and 3 that follow one another ascend in their numbers if nothing
is passed over, and not otherwise. -/
theorem ascending_iff_of_takeTagged {es first second : List Element} {a b c : Option Element}
    (ha : takeTagged 1 es = (a, first)) (hb : takeTagged 2 first = (b, second))
    (hc : takeTagged 3 second = (c, [])) :
    (0 :: es.map Element.number).Pairwise (· < ·) ↔ es = a.toList ++ (b.toList ++ c.toList) := by
  obtain ⟨_, hfirst⟩ := exists_takes_of_takeTagged ha
  obtain ⟨_, hsecond⟩ := exists_takes_of_takeTagged hb
  obtain ⟨_, hthird⟩ := exists_takes_of_takeTagged hc
  have hnil : ∀ e ∈ ([] : List Element), e.isContext = true := fun e he => by cases he
  have hcontextSecond := hthird.isContext hnil
  have hcontextFirst := hsecond.isContext hcontextSecond
  rw [hfirst.ascending_iff rfl hcontextFirst, hsecond.ascending_iff rfl hcontextSecond,
    hthird.ascending_iff rfl hnil]
  constructor
  · rintro ⟨rfl, rfl, rfl, -⟩
    rw [List.append_nil]
  · intro hes
    have hlengthSecond := congrArg List.length hthird.split
    have hlengthFirst := congrArg List.length hsecond.split
    simp only [List.length_append, List.length_nil] at hlengthSecond hlengthFirst
    have hrest := hfirst.rest_eq (by rw [List.length_append]; omega) hes
    have hlast := hsecond.rest_eq (by omega) hrest.symm
    rw [hes, ← hrest, ← hlast]
    simp

/-! ## What is signed -/

theorem optional?_exact {α : Type} {read? : Element → Option α} {write : α → Element}
    (h : IsExact read? write) {e : Option Element} {a : Option α}
    (ha : optional? read? e = some a) :
    a.map write = e := by
  cases e with
  | none =>
      cases ha
      rfl
  | some e =>
      obtain ⟨found, hfound, rfl⟩ := Option.map_eq_some_iff.1 ha
      rw [Option.map_some, h hfound]

theorem optional?_isNormalForm {α : Type} {read? : Element → Option α} {write : α → Element}
    {normal : Element → Prop} (h : IsNormalForm read? write normal) {e : Option Element}
    {a : Option α} (hfits : ∀ f, e = some f → Der.Fits f.content)
    (ha : optional? read? e = some a) :
    a.map write = e ↔ ∀ f, e = some f → normal f := by
  cases e with
  | none =>
      cases ha
      simp
  | some e =>
      obtain ⟨found, hfound, rfl⟩ := Option.map_eq_some_iff.1 ha
      simp [h (hfits e rfl) hfound]

namespace TbsCertificate

/-- The elements that every TBSCertificate has, with the given ones for the names. -/
def fixedElements (tbs : TbsCertificate) (issuer subject : Element) : List Element :=
  [⟨0x02, tbs.serial⟩, tbs.signature.toElement, issuer,
    validityElement (tbs.notBefore, tbs.notAfter), subject,
    publicKeyElement (tbs.keyAlgorithm, tbs.key)]

/-- The elements of the unique identifiers. -/
def idElements (tbs : TbsCertificate) : List Element :=
  (tbs.issuerId.map (BitString.toElement (implicitOctet 1))).toList ++
    (tbs.subjectId.map (BitString.toElement (implicitOctet 2))).toList

theorem toElement_eq (tbs : TbsCertificate) :
    tbs.toElement = .sequence (versionElements tbs.version ++
      (tbs.fixedElements tbs.issuer.toElement tbs.subject.toElement ++
        (tbs.idElements ++ (tbs.extensions.map extensionsElement).toList))) := by
  unfold toElement idElements
  simp only [List.append_assoc]
  rfl

/-- The fields that are always there, each with the reader of its own. -/
structure ReadsFields (tbs : TbsCertificate)
    (serial signature issuer validity subject key : Element) : Prop where
  serial_eq : serial? serial = some tbs.serial
  signature_eq : AlgorithmIdentifier.ofElement? signature = some tbs.signature
  issuer_eq : Name.ofElement? issuer = some tbs.issuer
  validity_eq : validity? validity = some (tbs.notBefore, tbs.notAfter)
  subject_eq : Name.ofElement? subject = some tbs.subject
  key_eq : publicKey? key = some (tbs.keyAlgorithm, tbs.key)

/-- The elements under context-specific tags, which are taken one after the other until none is
left. -/
structure ReadsTagged (tbs : TbsCertificate) (tagged : List Element)
    (issuerId subjectId extensions : Option Element) : Prop where
  taken : ∃ afterIssuer afterSubject, takeTagged 1 tagged = (issuerId, afterIssuer) ∧
    takeTagged 2 afterIssuer = (subjectId, afterSubject) ∧
    takeTagged 3 afterSubject = (extensions, [])
  issuerId_eq : optional? (BitString.ofElement? (implicitOctet 1)) issuerId = some tbs.issuerId
  subjectId_eq : optional? (BitString.ofElement? (implicitOctet 2)) subjectId = some tbs.subjectId
  extensions_eq :
    optional? (explicitContent? 3 · >>= extensions?) extensions = some tbs.extensions

/-- What stands after the version is read field by field. -/
theorem ofFields?_eq_some_iff {version : Version} {es : List Element} {tbs : TbsCertificate} :
    ofFields? version es = some tbs ↔ tbs.version = version ∧
      ∃ serial signature issuer validity subject key tagged issuerId subjectId extensions,
        es = serial :: signature :: issuer :: validity :: subject :: key :: tagged ∧
        tbs.ReadsFields serial signature issuer validity subject key ∧
        tbs.ReadsTagged tagged issuerId subjectId extensions := by
  constructor
  · intro h
    unfold ofFields? at h
    split at h
    · next serial signature issuer validity subject key tagged =>
        obtain ⟨serialContent, hserial, h⟩ := Option.bind_eq_some_iff.1 h
        obtain ⟨signatureId, hsignature, h⟩ := Option.bind_eq_some_iff.1 h
        obtain ⟨issuerName, hissuer, h⟩ := Option.bind_eq_some_iff.1 h
        obtain ⟨⟨notBefore, notAfter⟩, hvalidity, h⟩ := Option.bind_eq_some_iff.1 h
        obtain ⟨subjectName, hsubject, h⟩ := Option.bind_eq_some_iff.1 h
        obtain ⟨⟨keyAlgorithm, keyBits⟩, hkey, h⟩ := Option.bind_eq_some_iff.1 h
        dsimp only at h
        obtain ⟨⟨issuerTagged, afterIssuer⟩, hissuerTagged⟩ :
            ∃ found, takeTagged 1 tagged = found := ⟨_, rfl⟩
        rw [hissuerTagged] at h
        obtain ⟨issuerId, hissuerId, h⟩ := Option.bind_eq_some_iff.1 h
        obtain ⟨⟨subjectTagged, afterSubject⟩, hsubjectTagged⟩ :
            ∃ found, takeTagged 2 afterIssuer = found := ⟨_, rfl⟩
        dsimp only at h
        rw [hsubjectTagged] at h
        obtain ⟨subjectId, hsubjectId, h⟩ := Option.bind_eq_some_iff.1 h
        obtain ⟨⟨extensionsTagged, afterExtensions⟩, hextensionsTagged⟩ :
            ∃ found, takeTagged 3 afterSubject = found := ⟨_, rfl⟩
        dsimp only at h
        rw [hextensionsTagged] at h
        obtain ⟨extensions, hextensions, h⟩ := Option.bind_eq_some_iff.1 h
        obtain ⟨hend, h⟩ := Option.ite_none_right_eq_some.1 h
        cases h
        obtain rfl : afterExtensions = [] := hend
        exact ⟨rfl, serial, signature, issuer, validity, subject, key, tagged, issuerTagged,
          subjectTagged, extensionsTagged, rfl,
          ⟨hserial, hsignature, hissuer, hvalidity, hsubject, hkey⟩,
          ⟨_, _, hissuerTagged, hsubjectTagged, hextensionsTagged⟩, hissuerId, hsubjectId,
          hextensions⟩
    · cases h
  · rintro ⟨rfl, serial, signature, issuer, validity, subject, key, tagged, issuerId, subjectId,
      extensions, rfl, hfields, hread⟩
    obtain ⟨afterIssuer, afterSubject, hissuer, hsubject, hextensions⟩ := hread.taken
    obtain ⟨hserial, hsignature, hissuerName, hvalidity, hsubjectName, hkey⟩ := hfields
    simp only [ofFields?, hserial, hsignature, hissuerName, hvalidity, hsubjectName, hkey, hissuer,
      hread.issuerId_eq, hsubject, hread.subjectId_eq, hextensions, Option.bind_eq_bind,
      Option.bind_some]
    exact Option.bind_eq_some_iff.2 ⟨_, hread.extensions_eq, rfl⟩

/-- The elements that a TBSCertificate was read from, by their place: the version if it was written,
those that are always there, and the ones under context-specific tags, the extensions among them. -/
structure ReadsFrom (tbs : TbsCertificate) (es : List Element) (version : Option Element)
    (issuer subject : Element) (tagged : List Element) (extensions : Option Element) : Prop where
  elements : es = version.toList ++ (tbs.fixedElements issuer subject ++ tagged)
  version_eq : version = none ∧ tbs.version = .v1 ∨
    version = some (explicit 0 tbs.version.toElement)
  issuer_eq : Name.ofElement? issuer = some tbs.issuer
  subject_eq : Name.ofElement? subject = some tbs.subject
  extensions_eq :
    optional? (explicitContent? 3 · >>= extensions?) extensions = some tbs.extensions
  extensions_number : ∀ f, extensions = some f → f.number = 3
  extensions_mem : ∀ f, extensions = some f → f ∈ tagged
  ascending : (0 :: tagged.map Element.number).Pairwise (· < ·) ↔
    tagged = tbs.idElements ++ extensions.toList

theorem exists_readsFrom_of_ofFields? {version : Version} {fields : List Element}
    {tbs : TbsCertificate} (h : ofFields? version fields = some tbs) :
    tbs.version = version ∧ ∃ issuer subject tagged extensions,
      ∀ written, (written = none ∧ version = .v1 ∨
          written = some (explicit 0 version.toElement)) →
        tbs.ReadsFrom (Option.toList written ++ fields) written issuer subject tagged
          extensions := by
  obtain ⟨rfl, serial, signature, issuer, validity, subject, key, tagged, issuerId, subjectId,
    extensions, rfl, hfields, hread⟩ := ofFields?_eq_some_iff.1 h
  obtain ⟨afterIssuer, afterSubject, hissuerTagged, hsubjectTagged, hextensionsTagged⟩ :=
    hread.taken
  obtain ⟨_, hfirst⟩ := exists_takes_of_takeTagged hissuerTagged
  obtain ⟨_, hsecond⟩ := exists_takes_of_takeTagged hsubjectTagged
  obtain ⟨_, hthird⟩ := exists_takes_of_takeTagged hextensionsTagged
  refine ⟨rfl, issuer, subject, tagged, extensions, fun written hversion => ?_⟩
  refine ⟨?_, hversion, hfields.issuer_eq, hfields.subject_eq, hread.extensions_eq,
    fun f hf => (hthird.taken_eq f hf).2, ?_, ?_⟩
  · have hserial : (⟨0x02, tbs.serial⟩ : Element) = serial := serial_isExact hfields.serial_eq
    unfold fixedElements
    rw [hserial, AlgorithmIdentifier.isExact hfields.signature_eq,
      validity_isExact hfields.validity_eq, publicKey_isExact hfields.key_eq]
    rfl
  · rintro f rfl
    rw [hfirst.split, hsecond.split, hthird.split]
    simp
  · rw [ascending_iff_of_takeTagged hissuerTagged hsubjectTagged hextensionsTagged]
    unfold idElements
    rw [optional?_exact (BitString.isExact _) hread.issuerId_eq,
      optional?_exact (BitString.isExact _) hread.subjectId_eq, List.append_assoc]

/-- The version is taken off first. Nothing is passed over in front of it, since no number is
smaller. -/
theorem exists_readsFrom_of_ofElement? {e : Element} {tbs : TbsCertificate}
    (h : ofElement? e = some tbs) :
    ∃ es version issuer subject tagged extensions, e.sequence? = some es ∧
      tbs.ReadsFrom es version issuer subject tagged extensions := by
  obtain ⟨es, hes, h⟩ := Option.bind_eq_some_iff.1 h
  obtain ⟨⟨written, fields⟩, htagged⟩ : ∃ found, takeTagged 0 es = found := ⟨_, rfl⟩
  rw [htagged] at h
  obtain ⟨version, hversion, hfields⟩ := Option.bind_eq_some_iff.1 h
  obtain ⟨passed, htakes⟩ := exists_takes_of_takeTagged htagged
  have hpassed : passed = [] := by
    apply List.eq_nil_iff_forall_not_mem.2
    intro f hf
    have hlt := UInt8.lt_iff_toNat_lt.1 (htakes.passed_lt f hf).2
    exact absurd hlt (Nat.not_lt_zero _)
  have hsplit := htakes.split
  rw [hpassed, List.nil_append] at hsplit
  obtain ⟨-, issuer, subject, tagged, extensions, hreads⟩ := exists_readsFrom_of_ofFields? hfields
  refine ⟨es, written, issuer, subject, tagged, extensions, hes, ?_⟩
  rw [hsplit]
  apply hreads
  cases written with
  | none =>
      cases hversion
      exact Or.inl ⟨rfl, rfl⟩
  | some w =>
      obtain ⟨found, hfound, rfl⟩ := Option.map_eq_some_iff.1 hversion
      obtain ⟨inner, hinner, hinnerVersion⟩ := Option.bind_eq_some_iff.1 hfound
      refine Or.inr ?_
      rw [Option.getD_some, Version.isExact hinnerVersion, explicit_isExact 0 hinner]

/-! ### Writing it back -/

theorem fixedElements_append_eq_iff {tbs : TbsCertificate}
    {issuer subject issuer' subject' : Element} {es fs : List Element} :
    tbs.fixedElements issuer subject ++ es = tbs.fixedElements issuer' subject' ++ fs ↔
      issuer = issuer' ∧ subject = subject' ∧ es = fs := by
  simp [fixedElements]

theorem number_of_mem_idElements {tbs : TbsCertificate} {f : Element} (h : f ∈ tbs.idElements) :
    f.number = 1 ∨ f.number = 2 := by
  rcases List.mem_append.1 h with hissuer | hsubject
  · obtain ⟨bits, -, rfl⟩ := Option.map_eq_some_iff.1 (Option.mem_toList.1 hissuer)
    exact Or.inl (by decide : implicitOctet 1 &&& 0x1F = 1)
  · obtain ⟨bits, -, rfl⟩ := Option.map_eq_some_iff.1 (Option.mem_toList.1 hsubject)
    exact Or.inr (by decide : implicitOctet 2 &&& 0x1F = 2)

/-- A TBSCertificate in normal form: the first version is not written, the names and the extensions
are in normal form, and the context-specific elements after the key have numbers from 1 on that
ascend. -/
def IsNormal (e : Element) : Prop :=
  ∃ version serial signature issuer validity subject key tagged,
    e.sequence? = some (Option.toList version ++
      ([serial, signature, issuer, validity, subject, key] ++ tagged)) ∧
    serial.octet = 0x02 ∧ version ≠ some (explicit 0 Version.v1.toElement) ∧
    Name.IsNormal issuer ∧ Name.IsNormal subject ∧
    (0 :: tagged.map Element.number).Pairwise (· < ·) ∧
    ∀ f ∈ tagged, f.number = 3 → IsNormalExtensions f

namespace ReadsFrom

variable {tbs : TbsCertificate} {es tagged : List Element} {version extensions : Option Element}
  {issuer subject : Element}

/-- The elements under context-specific tags are written back if nothing was passed over and the
extensions are in normal form. -/
theorem tagged_eq_iff (h : tbs.ReadsFrom es version issuer subject tagged extensions)
    (hfits : ∀ f ∈ tagged, Der.Fits f.content) :
    tbs.idElements ++ (tbs.extensions.map extensionsElement).toList = tagged ↔
      (0 :: tagged.map Element.number).Pairwise (· < ·) ∧
        ∀ f ∈ tagged, f.number = 3 → IsNormalExtensions f := by
  have hback := optional?_isNormalForm extensions_isNormalForm
    (fun f hf => hfits f (h.extensions_mem f hf)) h.extensions_eq
  have honly {f : Element} {others : Option Element} (hf : f ∈ tbs.idElements ++ others.toList)
      (hnumber : f.number = 3) : others = some f := by
    rcases List.mem_append.1 hf with hid | hother
    · rcases number_of_mem_idElements hid with hone | htwo
      · exact absurd (hone.symm.trans hnumber) (by decide)
      · exact absurd (htwo.symm.trans hnumber) (by decide)
    · exact Option.mem_toList.1 hother
  rw [h.ascending]
  constructor
  · intro htagged
    -- the extensions that were read are the only element under their number, so they were written
    have hwritten : tbs.extensions.map extensionsElement = extensions := by
      cases hextensions : extensions with
      | none =>
          have hread := h.extensions_eq
          rw [hextensions] at hread
          cases hnone : tbs.extensions with
          | none => rfl
          | some found =>
              rw [hnone] at hread
              cases hread
      | some f =>
          have hmem := h.extensions_mem f hextensions
          rw [← htagged] at hmem
          exact honly hmem (h.extensions_number f hextensions)
    rw [hwritten] at htagged
    refine ⟨htagged.symm, fun f hf hnumber => hback.1 hwritten f ?_⟩
    rw [← htagged] at hf
    exact honly hf hnumber
  · rintro ⟨htagged, hnormal⟩
    have hwritten := hback.2 fun f hf =>
      hnormal f (h.extensions_mem f hf) (h.extensions_number f hf)
    rw [hwritten, htagged]

/-- The version is written back if it was not the first one. -/
theorem version_eq_iff (h : tbs.ReadsFrom es version issuer subject tagged extensions)
    {others : List Element} :
    versionElements tbs.version ++
        (tbs.fixedElements tbs.issuer.toElement tbs.subject.toElement ++ others) = es ↔
      version ≠ some (explicit 0 Version.v1.toElement) ∧ tbs.issuer.toElement = issuer ∧
        tbs.subject.toElement = subject ∧ others = tagged := by
  have hsame (hne : version ≠ some (explicit 0 Version.v1.toElement))
      (hversion : versionElements tbs.version = version.toList) :
      versionElements tbs.version ++
          (tbs.fixedElements tbs.issuer.toElement tbs.subject.toElement ++ others) = es ↔
        version ≠ some (explicit 0 Version.v1.toElement) ∧ tbs.issuer.toElement = issuer ∧
          tbs.subject.toElement = subject ∧ others = tagged := by
    rw [hversion, h.elements, List.append_cancel_left_eq, fixedElements_append_eq_iff]
    exact (and_iff_right hne).symm
  rcases h.version_eq with ⟨hnone, hfirst⟩ | hsome
  · refine hsame (by simp [hnone]) ?_
    rw [hnone, hfirst]
    rfl
  · by_cases hfirst : tbs.version = .v1
    · rw [hfirst] at hsome
      refine iff_of_false ?_ fun hne => hne.1 hsome
      -- a serial number stands where the version was
      intro heq
      rw [h.elements, hsome, hfirst] at heq
      exact absurd (congrArg Element.octet (List.cons.inj heq).1)
        (by decide : (0x02 : UInt8) ≠ explicitOctet 0)
    · refine hsame ?_ ?_
      · rw [hsome]
        intro heq
        apply hfirst
        have hcontent := congrArg Element.content (Option.some.inj heq)
        revert hcontent
        cases tbs.version <;> decide
      · rw [hsome]
        exact if_neg hfirst

theorem toElement_eq_iff (h : tbs.ReadsFrom es version issuer subject tagged extensions)
    (hfits : Der.Fits (encodeAll es)) :
    tbs.toElement = .sequence es ↔
      version ≠ some (explicit 0 Version.v1.toElement) ∧ Name.IsNormal issuer ∧
        Name.IsNormal subject ∧ (0 :: tagged.map Element.number).Pairwise (· < ·) ∧
        ∀ f ∈ tagged, f.number = 3 → IsNormalExtensions f := by
  have hmem (f : Element) (hf : f ∈ tbs.fixedElements issuer subject ++ tagged) :
      Der.Fits f.content :=
    fits_of_mem hfits (by rw [h.elements]; exact List.mem_append_right _ hf)
  have hissuer := Name.isNormalForm (hmem issuer (by simp [fixedElements])) h.issuer_eq
  have hsubject := Name.isNormalForm (hmem subject (by simp [fixedElements])) h.subject_eq
  have htagged := h.tagged_eq_iff fun f hf => hmem f (List.mem_append_right _ hf)
  rw [toElement_eq, Element.sequence_eq_iff hfits, h.version_eq_iff, hissuer, hsubject, htagged]

/-- There is one way to give the elements their places, since the serial number is the first
INTEGER. -/
theorem isNormal_iff (h : tbs.ReadsFrom es version issuer subject tagged extensions) {e : Element}
    (hes : e.sequence? = some es) :
    IsNormal e ↔ version ≠ some (explicit 0 Version.v1.toElement) ∧ Name.IsNormal issuer ∧
      Name.IsNormal subject ∧ (0 :: tagged.map Element.number).Pairwise (· < ·) ∧
      ∀ f ∈ tagged, f.number = 3 → IsNormalExtensions f := by
  constructor
  · rintro ⟨version', serial, signature, issuer', validity, subject', key, tagged', hes', hserial,
      hnormal⟩
    rw [hes, Option.some.injEq, h.elements] at hes'
    have hsame : version = version' ∧ issuer = issuer' ∧ subject = subject' ∧ tagged = tagged' := by
      cases version with
      | none =>
          cases version' with
          | none =>
              simp only [fixedElements, Option.toList_none, List.nil_append, List.cons_append,
                List.cons.injEq] at hes'
              exact ⟨rfl, hes'.2.2.1, hes'.2.2.2.2.1, hes'.2.2.2.2.2.2⟩
          | some w =>
              -- the algorithm stands where the serial number should
              have hsecond := (List.cons.inj (List.cons.inj hes').2).1
              rw [← hsecond] at hserial
              exact absurd hserial (by decide : sequenceOctet ≠ 0x02)
      | some v =>
          cases version' with
          | none =>
              have hfirst := (List.cons.inj hes').1
              rcases h.version_eq with ⟨hnone, -⟩ | hsome
              · cases hnone
              · cases hsome
                rw [← hfirst] at hserial
                exact absurd hserial (by decide : explicitOctet 0 ≠ 0x02)
          | some w =>
              simp only [fixedElements, Option.toList_some, List.cons_append, List.nil_append,
                List.cons.injEq] at hes'
              exact ⟨congrArg some hes'.1, hes'.2.2.2.1, hes'.2.2.2.2.2.1, hes'.2.2.2.2.2.2.2⟩
    obtain ⟨rfl, rfl, rfl, rfl⟩ := hsame
    exact hnormal
  · intro hnormal
    exact ⟨version, _, _, issuer, _, subject, _, tagged, by rw [hes, h.elements]; rfl, rfl, hnormal⟩

end ReadsFrom

theorem isNormalForm : IsNormalForm ofElement? toElement IsNormal := by
  intro e tbs hfits h
  obtain ⟨es, version, issuer, subject, tagged, extensions, hes, hreads⟩ :=
    exists_readsFrom_of_ofElement? h
  rw [hreads.isNormal_iff hes]
  obtain ⟨rfl, -⟩ := Element.sequence?_eq_some_iff.1 hes
  exact hreads.toElement_eq_iff hfits

end TbsCertificate

/-! ## Certificates -/

namespace SignedCertificate

/-- A certificate whose signed part is in normal form. -/
def IsNormal (e : Element) : Prop :=
  ∃ tbs algorithm signature, e.sequence? = some [tbs, algorithm, signature] ∧
    TbsCertificate.IsNormal tbs

theorem isNormalForm : IsNormalForm ofElement? toElement IsNormal := by
  intro e c hfits h
  obtain ⟨es, hes, hfields⟩ := Option.bind_eq_some_iff.1 h
  obtain ⟨rfl, hreadable⟩ := Element.sequence?_eq_some_iff.1 hes
  unfold toElement IsNormal
  rw [Element.sequence_eq_iff hfits, hes]
  split at hfields
  · next tbs algorithm signature =>
      obtain ⟨tbsFound, htbs, hfields⟩ := Option.bind_eq_some_iff.1 hfields
      obtain ⟨algorithmFound, halgorithm, hfields⟩ := Option.bind_eq_some_iff.1 hfields
      obtain ⟨bits, hbits, hfields⟩ := Option.bind_eq_some_iff.1 hfields
      cases hfields
      have htbsFits : Der.Fits tbs.content := (hreadable tbs List.mem_cons_self).fits
      rw [AlgorithmIdentifier.isExact halgorithm, BitString.isExact _ hbits]
      simp [TbsCertificate.isNormalForm htbsFits htbs]
  · cases hfields

end SignedCertificate

namespace Certificate

/-- A byte string that is one element in the normal form of certificates. -/
def IsNormal (der : Bytes) : Prop :=
  ∃ e, Element.read? der = some (e, []) ∧ SignedCertificate.IsNormal e

/-- A certificate keeps its octets in normal form exactly if they are in normal form. -/
theorem normalized_der_eq_iff {der : Bytes} {c : Certificate} (h : ofBytes? der = some c) :
    (normalized c.signed).der = der ↔ IsNormal der := by
  unfold ofBytes? at h
  split at h
  · next e hread =>
      obtain ⟨signed, hsigned, rfl⟩ := Option.map_eq_some_iff.1 h
      obtain ⟨hder, hreadable⟩ := Element.read?_eq_some_iff.1 hread
      rw [List.append_nil] at hder
      have hform := SignedCertificate.isNormalForm hreadable.fits hsigned
      have hback : (normalized signed).der = der ↔ signed.toElement = e := by
        constructor
        · intro hsame
          exact Element.encode_inj hreadable.fits (hsame.trans hder)
        · intro hsame
          exact (congrArg Element.encode hsame).trans hder.symm
      rw [hback, hform]
      simp [IsNormal, hread]
  · cases h

end Certificate

end Credential.X509
