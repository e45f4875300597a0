import Credential.Proofs.Key.FormatDetection
import Credential.Proofs.Key.Inspection

/-!
# Telling key structures apart

`DerStructure.classify` looks at two tags of a DER file and reads nothing behind them. A structure
that its reader accepts has these tags, whatever lengths and elements stand around them
(`DerStructure.Accepts.classify`). So no file is accepted as two structures, and where the reader of
the structure that was told refuses a file, every other reader would have refused it too
(`der_structures_are_told_apart`).
-/

namespace Credential.Key

variable {data : Bytes} {structure_ other : DerStructure}

/-- The octets are accepted by the reader of a structure. -/
def DerStructure.Accepts : DerStructure → Bytes → Prop
  | .pkcs1, data => ∃ params, RsaParameters.decode data = .ok params
  | .pkcs8, data => ∃ info, PrivateKeyInfo.decode data = .ok info
  | .encryptedPkcs8, data => ∃ info, EncryptedPrivateKeyInfo.decode data = .ok info

/-- The structure that an inspection reports. -/
def DerStructure.reported (structure_ : DerStructure) : Structure :=
  (Wrapping.ofDer structure_).structure_

theorem DerStructure.reported_injective : Function.Injective reported := by
  intro first second
  cases first <;> cases second <;> simp [reported, Wrapping.ofDer, Wrapping.structure_]

/-! ## The tags of what is accepted -/

/-- What the reader of a structure accepts is told to be that structure. -/
theorem DerStructure.Accepts.classify (h : structure_.Accepts data) :
    DerStructure.classify data = .ok structure_ := by
  cases structure_ with
  | pkcs1 =>
      obtain ⟨params, hparams⟩ := h
      exact classify_of_rsaPrivateKey hparams
  | pkcs8 =>
      obtain ⟨info, hinfo⟩ := h
      exact classify_of_privateKeyInfo hinfo
  | encryptedPkcs8 =>
      obtain ⟨info, hinfo⟩ := h
      exact classify_of_encryptedPrivateKeyInfo hinfo

/-- No octets are accepted as two structures. -/
theorem DerStructure.Accepts.unique (h : structure_.Accepts data) (hother : other.Accepts data) :
    other = structure_ :=
  Except.ok.inj (hother.classify.symm.trans h.classify)

/-! ## What is decoded -/

theorem DerStructure.accepts_of_ofDer {password : Option Bytes} {options : Options}
    {specification : Specification}
    (h : Specification.ofDer structure_ data password options = .ok specification) :
    structure_.Accepts data := by
  cases structure_ with
  | pkcs1 =>
      obtain ⟨params, hparams, -⟩ := map_eq_ok_iff.1 h
      exact ⟨params, hparams⟩
  | pkcs8 =>
      obtain ⟨info, hinfo, -⟩ := bind_eq_ok_iff.1 h
      exact ⟨info, hinfo⟩
  | encryptedPkcs8 =>
      obtain ⟨info, hinfo, -⟩ := bind_eq_ok_iff.1 h
      exact ⟨info, hinfo⟩

/-! ## What is inspected -/

/-- A scheme is refused by its name only. -/
theorem Pbe.Scheme.eq_of_ofOid_error {oid : Der.ObjectIdentifier} {cause : Error}
    (h : Pbe.Scheme.ofOid oid = .error cause) : ∃ name, cause = .unsupportedAlgorithm name := by
  unfold ofOid at h
  split at h
  · cases h
    exact ⟨_, rfl⟩
  · split at h
    · cases h
    · cases h
      exact ⟨_, rfl⟩

/-- Every encrypted key shows the name of its scheme, of one that is not supported as well. -/
theorem Info.exists_schemeName (info : EncryptedPrivateKeyInfo) :
    ∃ name, schemeName info = .ok name := by
  cases hscheme : info.scheme with
  | ok scheme => exact ⟨scheme.name, schemeName_of_scheme hscheme⟩
  | error cause =>
      obtain ⟨name, rfl⟩ := Pbe.Scheme.eq_of_ofOid_error hscheme
      refine ⟨name, ?_⟩
      unfold schemeName
      rw [hscheme]

/-- A DER encoding is inspected as the container that it is. -/
theorem Info.ofDer_eq_info (format : Format) (label : Option String) (structure_ : DerStructure)
    (data : Bytes) :
    ofDer format label structure_ data =
      Container.info ⟨format, label, .ofDer structure_, data⟩ := by
  cases structure_ <;> rfl

/-- What shows anything is accepted. -/
theorem DerStructure.accepts_of_shows {format : Format} {label : Option String} {info : Info}
    (h : Shows format label data (.ofDer structure_) info) : structure_.Accepts data := by
  cases structure_ with
  | pkcs1 =>
      cases h with
      | pkcs1 hparams => exact ⟨_, hparams⟩
  | pkcs8 =>
      cases h with
      | pkcs8 hdecoded => exact ⟨_, hdecoded⟩
  | encryptedPkcs8 =>
      cases h with
      | encryptedPkcs8 hdecoded _ => exact ⟨_, hdecoded⟩

/-- What is accepted shows something, whether its scheme is supported or not. -/
theorem DerStructure.Accepts.exists_shows (h : structure_.Accepts data) (format : Format)
    (label : Option String) : ∃ info, Shows format label data (.ofDer structure_) info := by
  cases structure_ with
  | pkcs1 =>
      obtain ⟨params, hparams⟩ := h
      exact ⟨_, .pkcs1 hparams⟩
  | pkcs8 =>
      obtain ⟨decoded, hdecoded⟩ := h
      exact ⟨_, .pkcs8 hdecoded⟩
  | encryptedPkcs8 =>
      obtain ⟨decoded, hdecoded⟩ := h
      obtain ⟨name, hname⟩ := Info.exists_schemeName decoded
      exact ⟨_, .encryptedPkcs8 hdecoded hname⟩

/-! ## Main result -/

/-- What a reader accepts is told to be its structure, so no octets are accepted by two readers. A
DER file that is decoded is accepted by the reader of the structure that it is told to be, and by no
other one. It is inspected exactly if one reader accepts it, as the structure of that reader. -/
theorem der_structures_are_told_apart (data : Bytes) :
    (∀ structure_, DerStructure.Accepts structure_ data →
      DerStructure.classify data = .ok structure_) ∧
    (∀ structure_ other, DerStructure.Accepts structure_ data → DerStructure.Accepts other data →
      other = structure_) ∧
    (Format.detect data = .der →
      (∀ password options specification,
        Specification.ofFile data password options = .ok specification →
        ∃ structure_, DerStructure.classify data = .ok structure_ ∧
          ∀ other, DerStructure.Accepts other data ↔ other = structure_) ∧
      ∀ structure_, DerStructure.Accepts structure_ data ↔
        ∃ info, Info.ofFile data = .ok info ∧ info.structure_ = structure_.reported) := by
  refine ⟨fun _ h => h.classify, fun _ _ h hother => h.unique hother, ?_⟩
  intro hformat
  have hmarker := Format.detect_eq_der_iff.1 hformat
  constructor
  · intro password options specification h
    -- the file was told to be a structure before it was read
    unfold Specification.ofFile at h
    rw [hformat] at h
    obtain ⟨structure_, hclassify, h⟩ := bind_eq_ok_iff.1 h
    have haccepts := DerStructure.accepts_of_ofDer h
    refine ⟨structure_, hclassify, fun other => ⟨fun hother => haccepts.unique hother, ?_⟩⟩
    rintro rfl
    exact haccepts
  · intro structure_
    constructor
    · intro h
      obtain ⟨info, hshows⟩ := h.exists_shows .der none
      have hinfo : Container.info ⟨.der, none, .ofDer structure_, data⟩ = .ok info :=
        Container.info_eq_ok_iff.2 hshows
      refine ⟨info, ?_, Container.structure_of_info hinfo⟩
      rw [Info.ofFile_of_classify h.classify hmarker, Info.ofDer_eq_info, hinfo]
    · rintro ⟨info, hfile, hreported⟩
      unfold Info.ofFile at hfile
      rw [hformat] at hfile
      obtain ⟨found, hclassify, hinfo⟩ := bind_eq_ok_iff.1 hfile
      rw [Info.ofDer_eq_info] at hinfo
      -- the reader that was run is the one of the structure that is reported
      have hfound := Container.structure_of_info hinfo
      rw [DerStructure.reported_injective (hreported.symm.trans hfound)]
      exact DerStructure.accepts_of_shows (Container.info_eq_ok_iff.1 hinfo)

/-- A key in the clear whose lengths take more octets than they need, and an encrypted one by a
scheme that is not known. -/
theorem der_structures_are_told_apart_small :
    (∃ structure_, DerStructure.classify
        [0x30, 0x81, 13, 2, 0x81, 1, 0, 2, 1, 15, 2, 1, 3, 2, 1, 3] = .ok structure_ ∧
      ∀ other, DerStructure.Accepts other
        [0x30, 0x81, 13, 2, 0x81, 1, 0, 2, 1, 15, 2, 1, 3, 2, 1, 3] ↔ other = structure_) ∧
    ∃ info, Info.ofFile [0x30, 9, 0x30, 4, 6, 2, 42, 3, 4, 1, 0] = .ok info ∧
      info.structure_ = .encryptedPkcs8 := by
  have hdecoded : Specification.ofFile
      [0x30, 0x81, 13, 2, 0x81, 1, 0, 2, 1, 15, 2, 1, 3, 2, 1, 3] none {} =
        .ok (.rsa ⟨15, 3, [3]⟩) := rfl
  have haccepted : DerStructure.Accepts .encryptedPkcs8 [0x30, 9, 0x30, 4, 6, 2, 42, 3, 4, 1, 0] :=
    ⟨⟨⟨⟨[1, 2, 3]⟩, none⟩, [0]⟩, rfl⟩
  obtain ⟨-, -, hclear⟩ :=
    der_structures_are_told_apart [0x30, 0x81, 13, 2, 0x81, 1, 0, 2, 1, 15, 2, 1, 3, 2, 1, 3]
  obtain ⟨-, -, hencrypted⟩ :=
    der_structures_are_told_apart [0x30, 9, 0x30, 4, 6, 2, 42, 3, 4, 1, 0]
  exact ⟨(hclear (by decide)).1 _ _ _ hdecoded,
    ((hencrypted (by decide)).2 .encryptedPkcs8).1 haccepted⟩

end Credential.Key
