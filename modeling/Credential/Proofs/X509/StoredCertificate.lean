import Credential.Proofs.X509.CertificateForm
import Credential.Proofs.X509.ChainText
import Credential.Proofs.X509.Dates
import Credential.Proofs.X509.Rereading

/-!
# Certificates and the octets kept with them

The octets that are kept with a certificate are read as that certificate, however it was obtained
(`Certificate.IsObtained.isFaithful`). For octets that were read this is how they are kept; for the
normal form it needs that every part of a certificate is read again as it was written, down to the
names and the extensions (`SignedCertificate.isReread`). What holds of every certificate that is
read from octets holds of the members of a chain therefore, such as that its dates are converted
(`Chain.mapM_checkedSummary?`).

So the certificates of a chain, side by side, are the same chain again. Where reading stops at a
certificate that is not accepted, the ones before it are such a chain (`StopsAt`).
-/

namespace Credential.X509

/-! ## What is signed -/

/-- Whether an element, if it is there, stands under a context-specific tag. -/
def IsUnder (number : UInt8) (e : Option Element) : Prop :=
  ∀ f, e = some f → f.isContext = true ∧ f.number = number

theorem isUnder_map {α : Type} {write : α → Element} {number : UInt8} (octet : UInt8)
    (hoctet : ∀ a, (write a).octet = octet)
    (hunder : octet &&& 0xC0 = 0x80 ∧ octet &&& 0x1F = number) (a : Option α) :
    IsUnder number (a.map write) := by
  intro f hf
  obtain ⟨found, -, rfl⟩ := Option.map_eq_some_iff.1 hf
  simp only [Element.isContext, Element.number, hoctet]
  exact ⟨beq_iff_eq.2 hunder.1, hunder.2⟩

/-- What is passed over is left out. -/
theorem Takes.sublist {number : UInt8} {es passed rest : List Element} {taken : Option Element}
    (h : Takes number es passed taken rest) : (taken.toList ++ rest).Sublist es := by
  rw [h.split]
  exact List.sublist_append_right _ _

/-- No element is passed over if the next one does not have a smaller number. -/
theorem takeTagged_cons {number : UInt8} {e : Element} (h : number ≤ e.number)
    (rest : List Element) :
    takeTagged number (e :: rest) =
      if e.isContext ∧ e.number = number then (some e, rest) else (none, e :: rest) := by
  have hstop : (e.isContext && e.number < number) = false := by simp [h]
  unfold takeTagged
  rw [List.dropWhile_cons, hstop]
  rfl

/-- An element that is next is taken, and none is if the next one has a larger number. -/
theorem takeTagged_append {number : UInt8} {taken : Option Element} {rest : List Element}
    (htaken : IsUnder number taken) (hrest : ∀ e, rest.head? = some e → number < e.number) :
    takeTagged number (taken.toList ++ rest) = (taken, rest) := by
  cases taken with
  | some t =>
      obtain ⟨hcontext, hnumber⟩ := htaken t rfl
      rw [Option.toList_some, List.singleton_append,
        takeTagged_cons (hnumber ▸ Std.le_refl _), if_pos ⟨hcontext, hnumber⟩]
  | none =>
      rw [Option.toList_none, List.nil_append]
      cases rest with
      | nil => rfl
      | cons e others =>
          have hlt : number < e.number := hrest e rfl
          rw [takeTagged_cons (Std.le_of_lt hlt),
            if_neg fun hunder => Std.lt_irrefl (hunder.2 ▸ hlt)]

/-- Elements under the numbers 1, 2 and 3 are taken one after the other. -/
theorem takeTagged_ascending {first second third : Option Element} (hfirst : IsUnder 1 first)
    (hsecond : IsUnder 2 second) (hthird : IsUnder 3 third) :
    takeTagged 1 (first.toList ++ (second.toList ++ third.toList)) =
        (first, second.toList ++ third.toList) ∧
      takeTagged 2 (second.toList ++ third.toList) = (second, third.toList) ∧
      takeTagged 3 third.toList = (third, []) := by
  have hthirdLt {number : UInt8} (hlt : number < 3) (e : Element)
      (he : e ∈ third.toList) : number < e.number := by
    rw [(hthird e (Option.mem_toList.1 he)).2]
    exact hlt
  refine ⟨takeTagged_append hfirst fun e he => ?_, takeTagged_append hsecond fun e he => ?_, ?_⟩
  · rcases List.mem_append.1 (List.mem_of_head? he) with hmem | hmem
    · rw [(hsecond e (Option.mem_toList.1 hmem)).2]
      decide
    · exact hthirdLt (by decide) e hmem
  · exact hthirdLt (by decide) e (List.mem_of_head? he)
  · have htaken : takeTagged 3 (third.toList ++ []) = (third, []) :=
      takeTagged_append hthird fun e he => by cases he
    rwa [List.append_nil] at htaken

namespace TbsCertificate

/-- The element of the extensions, if there are any. -/
def extensionsElements (tbs : TbsCertificate) : List Element :=
  (tbs.extensions.map extensionsElement).toList

/-- The elements after the version that a TBSCertificate is written as. -/
def fields (tbs : TbsCertificate) : List Element :=
  tbs.fixedElements tbs.issuer.toElement tbs.subject.toElement ++
    (tbs.idElements ++ tbs.extensionsElements)

/-- The elements under context-specific tags are written without those that were passed over. -/
theorem ReadsTagged.isReread {tbs : TbsCertificate} {tagged : List Element}
    {issuerId subjectId extensions : Option Element}
    (h : tbs.ReadsTagged tagged issuerId subjectId extensions)
    (hreadable : ∀ f ∈ tagged, f.IsReadable) :
    Replaces (tbs.idElements ++ tbs.extensionsElements) tagged ∧
      ∃ issuerId subjectId extensions,
        tbs.ReadsTagged (tbs.idElements ++ tbs.extensionsElements) issuerId subjectId
          extensions := by
  obtain ⟨afterIssuer, afterSubject, hfirst, hsecond, hthird⟩ := h.taken
  obtain ⟨passed, htakesFirst⟩ := exists_takes_of_takeTagged hfirst
  obtain ⟨passedNext, htakesSecond⟩ := exists_takes_of_takeTagged hsecond
  obtain ⟨passedLast, htakesThird⟩ := exists_takes_of_takeTagged hthird
  -- what is taken is all that is written, and the extensions may get shorter
  have hlast : extensions.toList.Sublist afterSubject := by
    simpa only [List.append_nil] using htakesThird.sublist
  have hsublist : (issuerId.toList ++ (subjectId.toList ++ extensions.toList)).Sublist tagged :=
    (((hlast.append_left _).trans htakesSecond.sublist).append_left _).trans htakesFirst.sublist
  have hmem : ∀ f ∈ issuerId.toList ++ (subjectId.toList ++ extensions.toList), f.IsReadable :=
    fun f hf => hreadable f (hsublist.subset hf)
  have hmemOthers : ∀ f ∈ subjectId.toList ++ extensions.toList, f.IsReadable :=
    fun f hf => hmem f (List.mem_append_right _ hf)
  obtain ⟨hissuerReplaces, hissuerAgain⟩ := (BitString.isExact (implicitOctet 1)).isReread.optional
    (fun f hf => hmem f (List.mem_append_left _ hf)) h.issuerId_eq
  obtain ⟨hsubjectReplaces, hsubjectAgain⟩ :=
    (BitString.isExact (implicitOctet 2)).isReread.optional
      (fun f hf => hmemOthers f (List.mem_append_left _ hf)) h.subjectId_eq
  obtain ⟨hextensionsReplaces, hextensionsAgain⟩ := extensions_isReread.optional
    (fun f hf => hmemOthers f (List.mem_append_right _ hf)) h.extensions_eq
  have hissuerUnder : IsUnder 1 (tbs.issuerId.map (BitString.toElement (implicitOctet 1))) :=
    isUnder_map (implicitOctet 1) (fun _ => rfl) (by decide) _
  have hsubjectUnder : IsUnder 2 (tbs.subjectId.map (BitString.toElement (implicitOctet 2))) :=
    isUnder_map (implicitOctet 2) (fun _ => rfl) (by decide) _
  have hextensionsUnder : IsUnder 3 (tbs.extensions.map extensionsElement) :=
    isUnder_map (explicitOctet 3) (fun _ => rfl) (by decide) _
  have htaken := takeTagged_ascending hissuerUnder hsubjectUnder hextensionsUnder
  simp only [idElements, extensionsElements, List.append_assoc]
  refine ⟨?_, _, _, _, ⟨_, _, htaken⟩, hissuerAgain, hsubjectAgain, hextensionsAgain⟩
  exact (hissuerReplaces.append (hsubjectReplaces.append hextensionsReplaces)).trans
    (.of_sublist hsublist hreadable)

/-- Every field is written so that it is read again. -/
theorem ReadsFields.isReread {tbs : TbsCertificate}
    {serial signature issuer validity subject key : Element}
    (h : tbs.ReadsFields serial signature issuer validity subject key)
    (hreadable : ∀ f ∈ [serial, signature, issuer, validity, subject, key], f.IsReadable) :
    Replaces (tbs.fixedElements tbs.issuer.toElement tbs.subject.toElement)
        [serial, signature, issuer, validity, subject, key] ∧
      tbs.ReadsFields ⟨0x02, tbs.serial⟩ tbs.signature.toElement tbs.issuer.toElement
        (validityElement (tbs.notBefore, tbs.notAfter)) tbs.subject.toElement
        (publicKeyElement (tbs.keyAlgorithm, tbs.key)) := by
  simp only [List.forall_mem_cons, List.not_mem_nil] at hreadable
  obtain ⟨hserial, hsignature, hissuer, hvalidity, hsubject, hkey, -⟩ := hreadable
  obtain ⟨hserialReplaces, hserialAgain⟩ := serial_isExact.isReread hserial h.serial_eq
  obtain ⟨hsignatureReplaces, hsignatureAgain⟩ :=
    AlgorithmIdentifier.isExact.isReread hsignature h.signature_eq
  obtain ⟨hissuerReplaces, hissuerAgain⟩ := Name.isReread hissuer h.issuer_eq
  obtain ⟨hvalidityReplaces, hvalidityAgain⟩ := validity_isExact.isReread hvalidity h.validity_eq
  obtain ⟨hsubjectReplaces, hsubjectAgain⟩ := Name.isReread hsubject h.subject_eq
  obtain ⟨hkeyReplaces, hkeyAgain⟩ := publicKey_isExact.isReread hkey h.key_eq
  refine ⟨?_, hserialAgain, hsignatureAgain, hissuerAgain, hvalidityAgain, hsubjectAgain, hkeyAgain⟩
  exact hserialReplaces.cons (hsignatureReplaces.cons (hissuerReplaces.cons
    (hvalidityReplaces.cons (hsubjectReplaces.cons hkeyReplaces))))

/-- What stands after the version is read again. -/
theorem isReread_fields {version : Version} {es : List Element} {tbs : TbsCertificate}
    (hreadable : ∀ f ∈ es, f.IsReadable) (h : ofFields? version es = some tbs) :
    Replaces tbs.fields es ∧ ofFields? version tbs.fields = some tbs := by
  obtain ⟨hversion, serial, signature, issuer, validity, subject, key, tagged, issuerId, subjectId,
    extensions, rfl, hfields, hread⟩ := ofFields?_eq_some_iff.1 h
  change ∀ f ∈ [serial, signature, issuer, validity, subject, key] ++ tagged, f.IsReadable
    at hreadable
  obtain ⟨hfixed, hagain⟩ := hfields.isReread fun f hf => hreadable f (List.mem_append_left _ hf)
  obtain ⟨htagged, _, _, _, htaggedAgain⟩ :=
    hread.isReread fun f hf => hreadable f (List.mem_append_right _ hf)
  exact ⟨hfixed.append htagged, ofFields?_eq_some_iff.2
    ⟨hversion, _, _, _, _, _, _, _, _, _, _, rfl, hagain, htaggedAgain⟩⟩

/-- The element of a version other than the first. -/
def versionElement? (version : Version) : Option Element :=
  if version = .v1 then none else some (explicit 0 version.toElement)

/-- Reads the version, which is the first one if there is no element. -/
def version? (written : Option Element) : Option Version :=
  (optional? (explicitContent? 0 · >>= Version.ofElement?) written).map (·.getD .v1)

theorem toList_versionElement? (version : Version) :
    (versionElement? version).toList = versionElements version := by
  cases version <;> rfl

theorem isUnder_versionElement? (version : Version) : IsUnder 0 (versionElement? version) := by
  intro f hf
  obtain ⟨-, hf⟩ := Option.ite_none_left_eq_some.1 hf
  have hunder : IsUnder 0 ((some version).map fun v => explicit 0 v.toElement) :=
    isUnder_map (explicitOctet 0) (fun _ => rfl) (by decide) _
  exact hunder f hf

/-- The version is read again, whether it is written or left out. -/
theorem isReread_version {written : Option Element} {version : Version}
    (hreadable : ∀ f ∈ written.toList, f.IsReadable) (h : version? written = some version) :
    Replaces (versionElements version) written.toList ∧
      version? (versionElement? version) = some version := by
  obtain ⟨found, hfound, hversion⟩ := Option.map_eq_some_iff.1 h
  rw [← toList_versionElement?]
  by_cases hfirst : version = .v1
  · rw [hfirst]
    exact ⟨.nil _, rfl⟩
  · obtain rfl : found = some version := by
      cases found with
      | none => exact absurd hversion.symm hfirst
      | some v => exact congrArg some hversion
    obtain ⟨hreplaces, hagain⟩ := (Version.isExact.isReread.explicit 0).optional hreadable hfound
    have hwritten : versionElement? version = some (explicit 0 version.toElement) := if_neg hfirst
    rw [hwritten]
    exact ⟨hreplaces, Option.map_eq_some_iff.2 ⟨some version, hagain, rfl⟩⟩

theorem isReread : IsReread ofElement? toElement := by
  intro e tbs he h
  obtain ⟨es, hes, hfields⟩ := Option.bind_eq_some_iff.1 h
  obtain ⟨rfl, hreadable⟩ := Element.sequence?_eq_some_iff.1 hes
  obtain ⟨⟨written, fields⟩, htagged⟩ : ∃ found, takeTagged 0 es = found := ⟨_, rfl⟩
  rw [htagged] at hfields
  obtain ⟨found, hfound, hfields⟩ := Option.bind_eq_some_iff.1 hfields
  obtain ⟨htbs, -⟩ := ofFields?_eq_some_iff.1 hfields
  obtain ⟨passed, htakes⟩ := exists_takes_of_takeTagged htagged
  have hmem : ∀ f ∈ written.toList ++ fields, f.IsReadable :=
    fun f hf => hreadable f (htakes.sublist.subset hf)
  have hread : version? written = some tbs.version :=
    Option.map_eq_some_iff.2 ⟨found, hfound, htbs.symm⟩
  obtain ⟨hversion, hversionAgain⟩ :=
    isReread_version (fun f hf => hmem f (List.mem_append_left _ hf)) hread
  obtain ⟨hothers, hothersAgain⟩ :=
    isReread_fields (fun f hf => hmem f (List.mem_append_right _ hf)) hfields
  have hall : Replaces (versionElements tbs.version ++ tbs.fields) es :=
    (hversion.append hothers).trans (.of_sublist htakes.sublist hreadable)
  rw [toElement_eq]
  refine hall.sequence he ?_
  -- the serial number follows, under a larger number, so the version is taken if it is there
  have htaken : takeTagged 0 (versionElements tbs.version ++ tbs.fields) =
      (versionElement? tbs.version, tbs.fields) := by
    rw [← toList_versionElement?]
    refine takeTagged_append (isUnder_versionElement? _) fun f hf => ?_
    cases hf
    exact (by decide : (0 : UInt8) < 0x02 &&& 0x1F)
  rw [htaken]
  obtain ⟨again, hagain, hsame⟩ := Option.map_eq_some_iff.1 hversionAgain
  refine Option.bind_eq_some_iff.2 ⟨again, hagain, ?_⟩
  rw [hsame, htbs]
  exact hothersAgain

end TbsCertificate

/-! ## Certificates -/

theorem SignedCertificate.isReread : IsReread ofElement? toElement := by
  intro e c he h
  obtain ⟨es, hes, hfields⟩ := Option.bind_eq_some_iff.1 h
  obtain ⟨rfl, hreadable⟩ := Element.sequence?_eq_some_iff.1 hes
  split at hfields
  · next tbs algorithm signature =>
      obtain ⟨tbsFound, htbs, hfields⟩ := Option.bind_eq_some_iff.1 hfields
      obtain ⟨algorithmFound, halgorithm, hfields⟩ := Option.bind_eq_some_iff.1 hfields
      obtain ⟨bits, hbits, hfields⟩ := Option.bind_eq_some_iff.1 hfields
      cases hfields
      simp only [List.forall_mem_cons, List.not_mem_nil] at hreadable
      obtain ⟨htbsReadable, halgorithmReadable, hbitsReadable, -⟩ := hreadable
      obtain ⟨htbsReplaces, htbsAgain⟩ := TbsCertificate.isReread htbsReadable htbs
      obtain ⟨halgorithmReplaces, halgorithmAgain⟩ :=
        AlgorithmIdentifier.isExact.isReread halgorithmReadable halgorithm
      obtain ⟨hbitsReplaces, hbitsAgain⟩ := (BitString.isExact _).isReread hbitsReadable hbits
      refine (htbsReplaces.cons (halgorithmReplaces.cons hbitsReplaces)).sequence he ?_
      dsimp only
      rw [htbsAgain, halgorithmAgain, hbitsAgain]
      rfl
  · cases hfields

namespace Certificate

/-- An element that is read as a certificate is one when it stands alone. -/
theorem ofBytes?_encode {e : Element} {c : SignedCertificate} (he : e.IsReadable)
    (h : SignedCertificate.ofElement? e = some c) : ofBytes? e.encode = some ⟨c, e.encode⟩ := by
  have hread : Element.read? e.encode = some (e, []) :=
    Element.read?_eq_some_iff.2 ⟨(List.append_nil _).symm, he⟩
  unfold ofBytes?
  rw [hread]
  dsimp only
  rw [h]
  rfl

theorem isFaithful_normalized {e : Element} {c : SignedCertificate} (he : e.IsReadable)
    (h : SignedCertificate.ofElement? e = some c) : (normalized c).IsFaithful := by
  obtain ⟨hreplaces, hagain⟩ := SignedCertificate.isReread he h
  exact ofBytes?_encode (hreplaces.isReadable _ List.mem_cons_self) hagain

end Certificate

/-! ## Chains -/

namespace Chain

variable {index : Nat} {data : Bytes} {certificates : List Certificate} {chain : Chain}

/-- Certificates side by side are kept in normal form, which is faithful. -/
theorem isFaithful_of_readCertificates (h : readCertificates index data = .ok certificates) :
    ∀ c ∈ certificates, c.IsFaithful ∧ Certificate.normalized c.signed = c := by
  induction certificates generalizing index data with
  | nil => exact List.forall_mem_nil _
  | cons c others ih =>
      obtain ⟨e, rest, signed, hread, hvalid, rfl, hothers⟩ := exists_read?_of_readCertificates h
      have hreadable : e.IsReadable := (Element.read?_eq_some_iff.1 hread).2
      exact List.forall_mem_cons.2
        ⟨⟨Certificate.isFaithful_normalized hreadable hvalid, rfl⟩, ih hothers⟩

theorem isFaithful_of_ofDer (h : ofDer data = .ok chain) :
    ∀ c ∈ chain.toList, c.IsFaithful ∧ Certificate.normalized c.signed = c := by
  obtain ⟨certificates, hcertificates, h⟩ := bind_eq_ok_iff.1 h
  rw [ofList_eq_ok_iff.1 h]
  exact isFaithful_of_readCertificates hcertificates

theorem isFaithful_of_ofText {s : String} (h : ofText s = .ok chain) :
    ∀ c ∈ chain.toList, c.IsFaithful := by
  obtain ⟨blocks, -, h⟩ := bind_eq_ok_iff.1 h
  obtain ⟨certificates, hcertificates, h⟩ := bind_eq_ok_iff.1 h
  rw [ofList_eq_ok_iff.1 h]
  exact (ofBlocks_eq_ok_iff.1 hcertificates).isFaithful

theorem isFaithful_of_ofFile {bytes : Bytes} (h : ofFile bytes = .ok chain) :
    ∀ c ∈ chain.toList, c.IsFaithful := by
  have hder (h : ofDer bytes = .ok chain) : ∀ c ∈ chain.toList, c.IsFaithful :=
    fun c hc => (isFaithful_of_ofDer h c hc).1
  unfold ofFile at h
  split at h
  · split at h
    · exact isFaithful_of_ofText h
    · split at h
      · cases h
      · exact hder h
  · exact hder h

/-- All certificates of a chain have a summary with converted dates, and it is the one without. -/
theorem mapM_checkedSummary? {bytes : Bytes} (h : ofFile bytes = .ok chain) :
    chain.toList.mapM Certificate.checkedSummary? =
      some (chain.toList.map Certificate.summary) := by
  apply mapM_eq_some_map
  intro c hc
  exact Certificate.checkedSummary?_eq
    (Certificate.isDated_of_ofBytes? (isFaithful_of_ofFile h c hc))

end Chain

/-- The ways to a certificate: it is read from octets or from a PEM block, or it is a member of a
chain, which is read from octets, from a text or from a file, or made of certificates. -/
inductive Certificate.IsObtained : Certificate → Prop where
  | bytes {der : Bytes} {c : Certificate} (h : Certificate.ofBytes? der = some c) : IsObtained c
  | block {index : Nat} {block : Pem.Block} {c : Certificate}
      (h : Chain.ofBlock index block = .ok c) : IsObtained c
  | der {data : Bytes} {chain : Chain} {c : Certificate} (h : Chain.ofDer data = .ok chain)
      (hc : c ∈ chain.toList) : IsObtained c
  | text {s : String} {chain : Chain} {c : Certificate} (h : Chain.ofText s = .ok chain)
      (hc : c ∈ chain.toList) : IsObtained c
  | file {bytes : Bytes} {chain : Chain} {c : Certificate} (h : Chain.ofFile bytes = .ok chain)
      (hc : c ∈ chain.toList) : IsObtained c
  | list {certificates : List Certificate} {chain : Chain} {c : Certificate}
      (hall : ∀ d ∈ certificates, IsObtained d) (h : Chain.ofList certificates = .ok chain)
      (hc : c ∈ chain.toList) : IsObtained c

theorem Certificate.IsObtained.isFaithful {c : Certificate} (h : c.IsObtained) : c.IsFaithful := by
  induction h with
  | bytes h => exact isFaithful_of_ofBytes? h
  | block h => exact (Chain.ofBlock_eq_ok_iff.1 h).isFaithful
  | der h hc => exact (Chain.isFaithful_of_ofDer h _ hc).1
  | text h hc => exact Chain.isFaithful_of_ofText h _ hc
  | file h hc => exact Chain.isFaithful_of_ofFile h _ hc
  | list _ h hc ih => exact ih _ (Chain.ofList_eq_ok_iff.1 h ▸ hc)

namespace Chain

variable {index : Nat} {data : Bytes} {certificates : List Certificate} {chain : Chain}

/-- The octets of a chain from DER are that chain. -/
theorem ofDer_flatten_der (h : ofDer data = .ok chain) :
    ofDer (chain.toList.map Certificate.der).flatten = .ok chain := by
  have hall := isFaithful_of_ofDer h
  have hnormal : chain.toList.map (fun c => Certificate.normalized c.signed) = chain.toList :=
    (List.map_congr_left fun c hc => (hall c hc).2).trans (List.map_id _)
  unfold ofDer
  rw [readCertificates_flatten (mapM_map_eq_some fun c hc => (hall c hc).1), hnormal]
  rfl

/-- Octets that begin with the given certificates, after which no other one stands. -/
structure StopsAt (data : Bytes) (ders : List Bytes) (rest : Bytes) : Prop where
  split : data = ders.flatten ++ rest
  accepted : ∀ der ∈ ders, (Certificate.ofBytes? der).isSome = true
  rest_ne_nil : rest ≠ []
  refused : ∀ der others, rest = der ++ others → Certificate.ofBytes? der = none

/-- Octets that begin with a certificate begin with an element that is read as one. -/
theorem stopsAt_nil (hne : data ≠ []) (h : ∀ e rest, Element.read? data = some (e, rest) →
    SignedCertificate.ofElement? e = none) : StopsAt data [] data := by
  refine ⟨rfl, List.forall_mem_nil _, hne, fun der others hdata => ?_⟩
  cases hread : Certificate.ofBytes? der with
  | none => rfl
  | some c =>
      obtain ⟨e, hvalid, hfirst⟩ := Certificate.exists_read?_of_ofBytes? hread
      rw [h e others (hdata ▸ hfirst others)] at hvalid
      cases hvalid

/-- Reading stops where no certificate stands, and it names the number of those before. -/
theorem exists_stopsAt_of_readCertificates {e : Error}
    (h : readCertificates index data = .error e) :
    ∃ ders rest, StopsAt data ders rest ∧ e = .invalidCertificate (index + ders.length) := by
  -- along the recursion of the reader, which takes one certificate off
  induction index, data using readCertificates.induct with
  | case1 index =>
      rw [readCertificates, if_pos rfl] at h
      cases h
  | case2 index data hne hread =>
      rw [readCertificates_of_ne_nil hne, hread] at h
      cases h
      refine ⟨[], data, stopsAt_nil hne fun e rest hfound => ?_, rfl⟩
      rw [hread] at hfound
      cases hfound
  | case3 index data hne e rest hread hinvalid =>
      rw [readCertificates_of_ne_nil hne, hread] at h
      dsimp only at h
      rw [hinvalid] at h
      cases h
      refine ⟨[], data, stopsAt_nil hne fun f others hfound => ?_, rfl⟩
      rw [hread] at hfound
      cases hfound
      exact hinvalid
  | case4 index data hne e rest hread c hvalid ih =>
      rw [readCertificates_of_ne_nil hne, hread] at h
      dsimp only at h
      rw [hvalid] at h
      obtain ⟨ders, last, hstops, rfl⟩ := ih (map_eq_error_iff.1 h)
      obtain ⟨hdata, hreadable⟩ := Element.read?_eq_some_iff.1 hread
      have haccepted : (Certificate.ofBytes? e.encode).isSome = true := by
        rw [Certificate.ofBytes?_encode hreadable hvalid]
        rfl
      refine ⟨e.encode :: ders, last, ⟨?_, List.forall_mem_cons.2 ⟨haccepted, hstops.accepted⟩,
        hstops.rest_ne_nil, hstops.refused⟩, ?_⟩
      · rw [hdata, hstops.split, List.flatten_cons, List.append_assoc]
      · rw [List.length_cons, Nat.add_right_comm, Nat.add_assoc]

/-- Octets are kept with certificates that are read as these certificates. The certificates of a
chain from DER are that chain again when they stand side by side, and where a DER chain is refused,
the ones before the place that is named are a chain of their own. -/
theorem kept_octets_are_read_again :
    (∀ c : Certificate, c.IsObtained → Certificate.ofBytes? c.der = some c) ∧
    (∀ data chain, ofDer data = .ok chain →
      ofDer (chain.toList.map Certificate.der).flatten = .ok chain) ∧
    ∀ data i, ofDer data = .error (.invalidCertificate i) →
      ∃ ders rest, StopsAt data ders rest ∧ ders.length = i ∧
        (0 < i → ∃ chain, ofDer ders.flatten = .ok chain ∧ chain.size = i) := by
  refine ⟨fun c h => h.isFaithful, fun data chain => ofDer_flatten_der, fun data i h => ?_⟩
  rcases bind_eq_error_iff.1 h with h | ⟨certificates, -, h⟩
  · obtain ⟨ders, rest, hstops, hindex⟩ := exists_stopsAt_of_readCertificates h
    obtain rfl : i = ders.length := by
      rw [Nat.zero_add] at hindex
      exact Error.invalidCertificate.inj hindex
    refine ⟨ders, rest, hstops, rfl, fun hpos => ?_⟩
    obtain ⟨certificates, hcertificates⟩ := exists_mapM_eq_some hstops.accepted
    obtain ⟨chain, hchain, hlist⟩ := exists_ofDer hcertificates (List.ne_nil_of_length_pos hpos)
    refine ⟨chain, hchain, ?_⟩
    unfold size
    rw [hlist, List.length_map, ← map_der hcertificates, List.length_map]
  · obtain ⟨-, h⟩ := ofList_eq_error_iff.1 h
    cases h

/-- A certificate that is not in normal form, alone and with an octet after it. -/
theorem kept_octets_of_unordered_certificate :
    ∃ chain ders rest, ofDer (twoAttributeCertificate [unitName, commonName]) = .ok chain ∧
      (∀ c ∈ chain.toList, Certificate.ofBytes? c.der = some c) ∧
      ofDer (chain.toList.map Certificate.der).flatten = .ok chain ∧
      StopsAt (twoAttributeCertificate [unitName, commonName] ++ [0x30]) ders rest ∧
      ders.length = 1 ∧ ∃ before, ofDer ders.flatten = .ok before ∧ before.size = 1 := by
  have haccepted :
      (ofDer (twoAttributeCertificate [unitName, commonName])).toOption.isSome = true := by
    decide +kernel
  have hrefused : (match ofDer (twoAttributeCertificate [unitName, commonName] ++ [0x30]) with
      | .ok _ => none
      | .error e => some e) = some (.invalidCertificate 1) := by
    decide +kernel
  obtain ⟨chain, hchain⟩ := Option.isSome_iff_exists.1 haccepted
  rw [toOption_eq_some_iff] at hchain
  have hfails : ofDer (twoAttributeCertificate [unitName, commonName] ++ [0x30]) =
      .error (.invalidCertificate 1) := by
    split at hrefused
    · cases hrefused
    · next e he => rw [he, Option.some.inj hrefused]
  obtain ⟨hfaithful, hagain, hstops⟩ := kept_octets_are_read_again
  obtain ⟨ders, rest, hstop, hlength, hbefore⟩ := hstops _ _ hfails
  exact ⟨chain, ders, rest, hchain, fun c hc => hfaithful c (.der hchain hc), hagain _ _ hchain,
    hstop, hlength, hbefore Nat.one_pos⟩

end Chain

end Credential.X509
