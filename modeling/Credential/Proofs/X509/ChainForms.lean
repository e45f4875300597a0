import Credential.Proofs.Pem.PrintedBlock
import Credential.Proofs.X509.CertificateForm
import Credential.X509.Chain

/-!
# The same chain from DER and from PEM

Both readers of chains find the certificates that the reader of one certificate accepts, all of them
and in order: side by side (`readCertificates_flatten`) as well as in PEM blocks
(`ofBlocks_certificates`). They keep different octets. A certificate from PEM has those it was read
from, and one from DER its normal form. So the two chains of the same certificates are equal exactly
if all of these are in normal form (`der_and_pem_chains_agree_iff`), and not for the certificate of
`der_and_pem_chains_differ`, which has two attributes in the other order.
-/

namespace Credential.X509

/-! ## One certificate -/

namespace Certificate

theorem der_of_ofBytes? {der : Bytes} {c : Certificate} (h : ofBytes? der = some c) :
    c.der = der := by
  unfold ofBytes? at h
  split at h
  · obtain ⟨signed, -, rfl⟩ := Option.map_eq_some_iff.1 h
    rfl
  · cases h

/-- A certificate is one element, whatever comes after it. -/
theorem exists_read?_of_ofBytes? {der : Bytes} {c : Certificate} (h : ofBytes? der = some c) :
    ∃ e, SignedCertificate.ofElement? e = some c.signed ∧
      ∀ rest, Element.read? (der ++ rest) = some (e, rest) := by
  unfold ofBytes? at h
  split at h
  · next e hread =>
      obtain ⟨signed, hsigned, rfl⟩ := Option.map_eq_some_iff.1 h
      exact ⟨e, hsigned, fun rest => Element.read?_append hread rest⟩
  · cases h

theorem ne_nil_of_ofBytes? {der : Bytes} {c : Certificate} (h : ofBytes? der = some c) :
    der ≠ [] := by
  rintro rfl
  cases h

end Certificate

namespace Chain

variable {ders : List Bytes} {certificates : List Certificate}

/-- Certificates keep the octets they were read from. -/
theorem map_der (h : ders.mapM Certificate.ofBytes? = some certificates) :
    certificates.map Certificate.der = ders := by
  induction ders generalizing certificates with
  | nil =>
      cases h
      rfl
  | cons der ders ih =>
      obtain ⟨c, others, hc, hothers, rfl⟩ := mapM_cons_eq_some_iff.1 h
      rw [List.map_cons, Certificate.der_of_ofBytes? hc, ih hothers]

theorem ne_nil_of_mem (h : ders.mapM Certificate.ofBytes? = some certificates) :
    ∀ der ∈ ders, der ≠ [] := by
  induction ders generalizing certificates with
  | nil => exact fun der hder => by cases hder
  | cons der ders ih =>
      obtain ⟨c, others, hc, hothers, -⟩ := mapM_cons_eq_some_iff.1 h
      exact List.forall_mem_cons.2 ⟨Certificate.ne_nil_of_ofBytes? hc, ih hothers⟩

/-! ## Certificates side by side -/

/-- Octets that are left are read as one more certificate. -/
theorem readCertificates_of_ne_nil {index : Nat} {data : Bytes} (hne : data ≠ []) :
    readCertificates index data =
      match Element.read? data with
      | none => .error (.invalidCertificate index)
      | some (e, rest) =>
        match SignedCertificate.ofElement? e with
        | none => .error (.invalidCertificate index)
        | some c => (readCertificates (index + 1) rest).map (.normalized c :: ·) := by
  rw [readCertificates, if_neg hne]
  split
  · next hread => simp only [hread]
  · next e rest hread => cases he : SignedCertificate.ofElement? e <;> simp only [hread, he]

/-- The first certificate that is read is the first element, in normal form. -/
theorem exists_read?_of_readCertificates {index : Nat} {data : Bytes} {c : Certificate}
    {others : List Certificate} (h : readCertificates index data = .ok (c :: others)) :
    ∃ e rest signed, Element.read? data = some (e, rest) ∧
      SignedCertificate.ofElement? e = some signed ∧ c = .normalized signed ∧
      readCertificates (index + 1) rest = .ok others := by
  have hne : data ≠ [] := by
    rintro rfl
    rw [readCertificates, if_pos rfl] at h
    cases h
  rw [readCertificates_of_ne_nil hne] at h
  cases hread : Element.read? data with
  | none =>
      rw [hread] at h
      cases h
  | some found =>
      obtain ⟨e, rest⟩ := found
      rw [hread] at h
      dsimp only at h
      cases hvalid : SignedCertificate.ofElement? e with
      | none =>
          rw [hvalid] at h
          cases h
      | some signed =>
          rw [hvalid] at h
          obtain ⟨tail, htail, heq⟩ := map_eq_ok_iff.1 h
          obtain ⟨rfl, rfl⟩ := List.cons.inj heq
          exact ⟨e, rest, signed, rfl, hvalid, rfl, htail⟩

/-- Certificates side by side are read one after the other, each in normal form. -/
theorem readCertificates_flatten (h : ders.mapM Certificate.ofBytes? = some certificates)
    (index : Nat) :
    readCertificates index ders.flatten =
      .ok (certificates.map fun c => .normalized c.signed) := by
  induction ders generalizing certificates index with
  | nil =>
      cases h
      rw [List.flatten_nil, readCertificates, if_pos rfl]
      rfl
  | cons der ders ih =>
      obtain ⟨c, others, hc, hothers, rfl⟩ := mapM_cons_eq_some_iff.1 h
      obtain ⟨e, he, hread⟩ := Certificate.exists_read?_of_ofBytes? hc
      have hne : der ++ ders.flatten ≠ [] := by simp [Certificate.ne_nil_of_ofBytes? hc]
      rw [List.flatten_cons, readCertificates_of_ne_nil hne, hread]
      dsimp only
      rw [he]
      dsimp only
      rw [ih hothers]
      rfl

/-! ## Certificates in PEM blocks -/

theorem ofBlocks_certificates (h : ders.mapM Certificate.ofBytes? = some certificates)
    (index : Nat) :
    ofBlocks index (ders.map (Pem.Block.ofBytes .certificate)) = .ok certificates := by
  induction ders generalizing certificates index with
  | nil =>
      cases h
      rfl
  | cons der ders ih =>
      obtain ⟨c, others, hc, hothers, rfl⟩ := mapM_cons_eq_some_iff.1 h
      have hblock : ofBlock index (Pem.Block.ofBytes .certificate der) = .ok c := by
        have hdecode : (Pem.Block.ofBytes .certificate der).decode = .ok der :=
          Pem.Block.decode_encode .certificate [] der
        unfold ofBlock
        rw [hdecode]
        dsimp only [Except.mapError, bind, Except.bind]
        rw [hc]
        rfl
      rw [List.map_cons, ofBlocks, hblock]
      dsimp only [bind, Except.bind]
      rw [ih hothers]
      rfl

/-! ## Both readers -/

theorem sameEncoding_iff {chain other : Chain} :
    chain.sameEncoding other = true ↔
      chain.toList.map Certificate.der = other.toList.map Certificate.der := by
  unfold sameEncoding
  exact beq_iff_eq

theorem exists_ofList {all : List Certificate} (h : all ≠ []) :
    ∃ chain, ofList all = .ok chain ∧ chain.toList = all := by
  cases all with
  | nil => exact absurd rfl h
  | cons leaf intermediates => exact ⟨⟨leaf, intermediates⟩, rfl, rfl⟩

/-- Normal forms are what was read if all of it is in normal form. -/
theorem map_normalized_der_eq_iff (h : ders.mapM Certificate.ofBytes? = some certificates) :
    certificates.map (fun c => (Certificate.normalized c.signed).der) = ders ↔
      ∀ der ∈ ders, Certificate.IsNormal der := by
  induction ders generalizing certificates with
  | nil =>
      cases h
      simp
  | cons der ders ih =>
      obtain ⟨c, others, hc, hothers, rfl⟩ := mapM_cons_eq_some_iff.1 h
      rw [List.map_cons, List.cons.injEq, List.forall_mem_cons, ih hothers,
        Certificate.normalized_der_eq_iff hc]

/-- The chain of certificates side by side has their normal forms. -/
theorem exists_ofDer (h : ders.mapM Certificate.ofBytes? = some certificates) (hne : ders ≠ []) :
    ∃ chain, ofDer ders.flatten = .ok chain ∧
      chain.toList = certificates.map fun c => .normalized c.signed := by
  have hcertificates : certificates.map (fun c => Certificate.normalized c.signed) ≠ [] := by
    intro hnil
    rw [List.map_eq_nil_iff.1 hnil] at h
    exact hne (map_der h).symm
  unfold ofDer
  rw [readCertificates_flatten h]
  exact exists_ofList hcertificates

/-- The chain of the blocks of certificates, side by side or each with a line feed after it, has the
certificates themselves. -/
theorem exists_ofText (h : ders.mapM Certificate.ofBytes? = some certificates) (hne : ders ≠ []) :
    ∃ texts chain,
      ders.mapM (fun der => (Pem.Block.ofBytes .certificate der).print?) = some texts ∧
      (∀ gap, gap = "" ∨ gap = "\n" → ofText (String.join (texts.map (· ++ gap))) = .ok chain) ∧
      chain.toList = certificates := by
  have hcertificates : certificates ≠ [] := by
    rintro rfl
    exact hne (map_der h).symm
  have hkept : (ders.map (Pem.Block.ofBytes .certificate)).filter (fun block =>
      block.label = .certificate) = ders.map (Pem.Block.ofBytes .certificate) := by
    simp [List.filter_eq_self, Pem.Block.ofBytes]
  have hlabel : Pem.Label.certificate.IsPrintable :=
    Pem.Label.isPrintable_of_known fun _ => Pem.Label.noConfusion
  obtain ⟨texts, htexts, hblocks⟩ := Pem.blocksOfText_printed hlabel hne (ne_nil_of_mem h)
  obtain ⟨chain, hchain, hlist⟩ := exists_ofList hcertificates
  refine ⟨texts, chain, htexts, fun gap hgap => ?_, hlist⟩
  unfold ofText
  rw [(hblocks gap hgap).1]
  dsimp only [Except.mapError, bind, Except.bind]
  rw [hkept, ofBlocks_certificates h]
  exact hchain

/-- Certificates that are accepted one by one are a chain, side by side in DER and in PEM blocks.
Both chains have all of them in order, and they are equal if and only if every certificate is in
normal form. -/
theorem der_and_pem_chains_agree_iff (ders : List Bytes) (hne : ders ≠ [])
    (haccepted : ∀ der ∈ ders, (Certificate.ofBytes? der).isSome = true) :
    ∃ certificates texts fromDer fromText,
      ders.mapM Certificate.ofBytes? = some certificates ∧
      ders.mapM (fun der => (Pem.Block.ofBytes .certificate der).print?) = some texts ∧
      ofDer ders.flatten = .ok fromDer ∧
      (∀ gap, gap = "" ∨ gap = "\n" →
        ofText (String.join (texts.map (· ++ gap))) = .ok fromText) ∧
      fromDer.toList = certificates.map (fun c => .normalized c.signed) ∧
      fromText.toList = certificates ∧ certificates.map Certificate.der = ders ∧
      (fromDer.sameEncoding fromText = true ↔ ∀ der ∈ ders, Certificate.IsNormal der) := by
  obtain ⟨certificates, hcertificates⟩ := exists_mapM_eq_some haccepted
  have hders : certificates.map Certificate.der = ders := map_der hcertificates
  obtain ⟨fromDer, hfromDer, hderList⟩ := exists_ofDer hcertificates hne
  obtain ⟨texts, fromText, htexts, hfromText, htextList⟩ := exists_ofText hcertificates hne
  refine ⟨certificates, texts, fromDer, fromText, hcertificates, htexts, hfromDer, hfromText,
    hderList, htextList, hders, ?_⟩
  rw [sameEncoding_iff, hderList, htextList, hders, List.map_map]
  exact map_normalized_der_eq_iff hcertificates

/-! ## A certificate with two attributes -/

/-- The attribute of the common name `a`. -/
def commonName : Attribute := ⟨⟨[0x55, 0x04, 0x03]⟩, ⟨0x0C, [0x61]⟩⟩

/-- The attribute of the organizational unit `b`. -/
def unitName : Attribute := ⟨⟨[0x55, 0x04, 0x0B]⟩, ⟨0x0C, [0x62]⟩⟩

/-- A certificate whose subject and issuer are the given relative name. -/
def twoAttributeCertificate (name : RelativeName) : Bytes :=
  let rsa (last : UInt8) : AlgorithmIdentifier :=
    ⟨⟨[0x2A, 0x86, 0x48, 0x86, 0xF7, 0x0D, 0x01, 0x01, last]⟩, some ⟨0x05, []⟩⟩
  let modulus : Bytes := [0x00, 0xC5, 0xA7, 0xD3] ++ List.replicate 23 0 ++ [0x30, 0x39]
  let tbs : TbsCertificate := {
    version := .v3
    serial := [0x01]
    signature := rsa 0x0B
    issuer := [name]
    notBefore := .utc ⟨2020, 1, 1, 0, 0, 0⟩
    notAfter := .utc ⟨2030, 1, 1, 0, 0, 0⟩
    subject := [name]
    keyAlgorithm := rsa 0x01
    key := ⟨0, (Element.sequence [⟨0x02, modulus⟩, ⟨0x02, [0x01, 0x00, 0x01]⟩]).encode⟩
    issuerId := none
    subjectId := none
    extensions := none }
  (SignedCertificate.toElement ⟨tbs, rsa 0x0B, ⟨0, (List.range 16).map UInt8.ofNat⟩⟩).encode

/-- Both orders of the attributes are accepted. The DER chain keeps one of them only, and the PEM
chain the one it was read with. -/
theorem der_and_pem_chains_differ :
    ∃ text fromDer fromText,
      (Pem.Block.ofBytes .certificate (twoAttributeCertificate [unitName, commonName])).print? =
        some text ∧
      (Certificate.ofBytes? (twoAttributeCertificate [unitName, commonName])).isSome = true ∧
      ofDer (twoAttributeCertificate [unitName, commonName]) = .ok fromDer ∧
      ofText text = .ok fromText ∧
      fromDer.toList.map Certificate.der = [twoAttributeCertificate [commonName, unitName]] ∧
      fromText.toList.map Certificate.der = [twoAttributeCertificate [unitName, commonName]] ∧
      fromDer.sameEncoding fromText = false := by
  have haccepted : (Certificate.ofBytes? (twoAttributeCertificate [unitName, commonName])).isSome =
      true := by
    decide +kernel
  have hsorted : ((ofDer (twoAttributeCertificate [unitName, commonName])).toOption.map fun chain =>
      chain.toList.map Certificate.der) =
        some [twoAttributeCertificate [commonName, unitName]] := by
    decide +kernel
  have hne : twoAttributeCertificate [commonName, unitName] ≠
      twoAttributeCertificate [unitName, commonName] := by
    decide +kernel
  obtain ⟨c, hc⟩ := Option.isSome_iff_exists.1 haccepted
  have hone : [twoAttributeCertificate [unitName, commonName]].mapM Certificate.ofBytes? =
      some [c] :=
    mapM_cons_eq_some_iff.2 ⟨c, [], hc, rfl, rfl⟩
  obtain ⟨fromDer, hfromDer, hders⟩ := Option.map_eq_some_iff.1 hsorted
  obtain ⟨texts, fromText, htexts, hfromText, hlist⟩ := exists_ofText hone (List.cons_ne_nil _ _)
  obtain ⟨text, _, htext, hnil, rfl⟩ := mapM_cons_eq_some_iff.1 htexts
  cases hnil
  have hread := hfromText "" (Or.inl rfl)
  have hkept : fromText.toList.map Certificate.der =
      [twoAttributeCertificate [unitName, commonName]] := by
    rw [hlist]
    exact map_der hone
  refine ⟨text, fromDer, fromText, htext, haccepted, toOption_eq_some_iff.1 hfromDer, ?_, hders,
    hkept, ?_⟩
  · simpa [String.join] using hread
  · rw [Bool.eq_false_iff]
    intro hsame
    rw [sameEncoding_iff, hders, hkept] at hsame
    exact hne (List.cons.inj hsame).1

/-- A chain of two certificates, the second of which is the first one with its attributes in another
order. -/
theorem der_and_pem_chains_of_two :
    ∃ texts fromDer fromText,
      [twoAttributeCertificate [commonName, unitName],
        twoAttributeCertificate [unitName, commonName]].mapM
          (fun der => (Pem.Block.ofBytes .certificate der).print?) = some texts ∧
      ofDer (twoAttributeCertificate [commonName, unitName] ++
        twoAttributeCertificate [unitName, commonName]) = .ok fromDer ∧
      ofText (String.join (texts.map (· ++ "\n"))) = .ok fromText ∧
      fromText.toList.map Certificate.der = [twoAttributeCertificate [commonName, unitName],
        twoAttributeCertificate [unitName, commonName]] := by
  have haccepted : ∀ der ∈ [twoAttributeCertificate [commonName, unitName],
      twoAttributeCertificate [unitName, commonName]],
      (Certificate.ofBytes? der).isSome = true := by
    decide +kernel
  obtain ⟨certificates, texts, fromDer, fromText, -, htexts, hfromDer, hfromText, -, hlist, hders,
    -⟩ := der_and_pem_chains_agree_iff _ (List.cons_ne_nil _ _) haccepted
  rw [List.flatten_cons, List.flatten_cons, List.flatten_nil, List.append_nil] at hfromDer
  exact ⟨texts, fromDer, fromText, htexts, hfromDer, hfromText "\n" (Or.inr rfl), hlist ▸ hders⟩

end Chain

end Credential.X509
