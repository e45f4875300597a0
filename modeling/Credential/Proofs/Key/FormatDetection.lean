import Credential.Key.Info
import Credential.Proofs.Key.FormatEquivalence

/-!
# DER keys and their detection

A DER key file is detected as DER if and only if five dashes do not stand side by side in it. Then
it is read as the structure whose reader accepts it, when it is decoded as well as when it is
inspected, whatever the password and the options are (`der_keys_are_detected`). A structure that is
accepted has the tags by which it is told, so no other structure can come first.

Numbers and ciphertexts may hold any octets, among them five dashes. Such a key is taken for PEM
text (`detect_of_dashes_in_modulus`).
-/

namespace Credential.Key

variable {data content rest : Bytes} {structure_ : DerStructure}

/-! ## Encrypted keys -/

/-- A SEQUENCE with another one at its beginning is told as an encrypted key. -/
theorem DerStructure.classify_of_sequence (hcontent : Der.sequenceContent data = .ok content)
    (htag : Der.peekTag content = some .sequence) : classify data = .ok .encryptedPkcs8 := by
  unfold classify
  rw [Der.readSequence_of_sequenceContent hcontent]
  dsimp only [bind, Except.bind, liftM, monadLift, MonadLift.monadLift, Except.mapError]
  rw [htag]
  rfl

/-- An EncryptedPrivateKeyInfo begins with a sequence. -/
theorem DerStructure.classify_of_encryptedPrivateKeyInfo {info : EncryptedPrivateKeyInfo}
    (h : EncryptedPrivateKeyInfo.decode data = .ok info) :
    classify data = .ok .encryptedPkcs8 := by
  obtain ⟨content, hcontent, h⟩ := bind_eq_ok_iff.1 h
  obtain ⟨⟨identifier, rest⟩, hidentifier, h⟩ := bind_eq_ok_iff.1 h
  obtain ⟨id, hid, -⟩ := bind_eq_ok_iff.1 h
  exact classify_of_sequence (mapError_eq_ok_iff.1 hcontent)
    (Der.peekTag_of_readElement (mapError_eq_ok_iff.1 hidentifier)
      (AlgorithmIdentifier.peekTag_of_decode hid))

/-! ## Files without the marker -/

theorem Info.ofFile_of_classify (hclassify : DerStructure.classify data = .ok structure_)
    (hmarker : ¬ Format.marker <:+: data) : ofFile data = ofDer .der none structure_ data := by
  unfold ofFile
  rw [Format.detect_eq_der_iff.2 hmarker, hclassify]
  rfl

/-- A DER file is detected exactly if it has no marker of PEM, and is then decoded and inspected as
the structure whose reader accepts it. -/
theorem der_keys_are_detected (data : Bytes) :
    (Format.detect data = .der ↔ ¬ Format.marker <:+: data) ∧
    (¬ Format.marker <:+: data →
      (∀ params, RsaParameters.decode data = .ok params →
        Info.ofFile data = .ok ⟨.der, none, .pkcs1, some .rsa, none⟩ ∧
        ∀ password options, Specification.ofFile data password options = .ok (.rsa params)) ∧
      (∀ info, PrivateKeyInfo.decode data = .ok info →
        Info.ofFile data = .ok ⟨.der, none, .pkcs8, info.keyAlgorithm.toOption, none⟩ ∧
        ∀ password options, Specification.ofFile data password options =
          info.keyAlgorithm.map fun _ => .pkcs8 info.algorithm.algorithm data) ∧
      (∀ info, EncryptedPrivateKeyInfo.decode data = .ok info →
        Info.ofFile data = (Info.schemeName info).map (fun name =>
          ⟨.der, none, .encryptedPkcs8, none, some name⟩) ∧
        ∀ password options, Specification.ofFile data password options =
          info.decrypt password options)) := by
  refine ⟨Format.detect_eq_der_iff, fun hmarker => ⟨?rsa, ?privateKey, ?encrypted⟩⟩
  case rsa =>
    intro params h
    have hclassify := DerStructure.classify_of_rsaPrivateKey h
    refine ⟨?_, fun password options => ?_⟩
    · rw [Info.ofFile_of_classify hclassify hmarker]
      exact bind_eq_ok_iff.2 ⟨params, h, rfl⟩
    · rw [Specification.ofFile_of_classify hclassify hmarker]
      exact map_eq_ok_iff.2 ⟨params, h, rfl⟩
  case privateKey =>
    intro info h
    have hclassify := DerStructure.classify_of_privateKeyInfo h
    refine ⟨?_, fun password options => ?_⟩
    · rw [Info.ofFile_of_classify hclassify hmarker]
      exact bind_eq_ok_iff.2 ⟨info, h, rfl⟩
    · rw [Specification.ofFile_of_classify hclassify hmarker]
      change Specification.ofPkcs8 data = _
      unfold Specification.ofPkcs8
      rw [h]
      change (info.keyAlgorithm >>= fun _ => _) = _
      cases info.keyAlgorithm <;> rfl
  case encrypted =>
    intro info h
    have hclassify := DerStructure.classify_of_encryptedPrivateKeyInfo h
    refine ⟨?_, fun password options => ?_⟩
    · rw [Info.ofFile_of_classify hclassify hmarker]
      unfold Info.ofDer
      dsimp only
      rw [h]
      change (Info.schemeName info >>= fun _ => _) = _
      cases Info.schemeName info <;> rfl
    · rw [Specification.ofFile_of_classify hclassify hmarker]
      change Specification.ofEncryptedPkcs8 data password options = _
      unfold Specification.ofEncryptedPkcs8
      rw [h]
      rfl

/-- A small key in the clear, one in a PrivateKeyInfo, and one that is encrypted by an unknown
scheme. -/
theorem der_keys_are_detected_small :
    Specification.ofFile [0x30, 12, 2, 1, 0, 2, 1, 15, 2, 1, 3, 2, 1, 3] none {} =
      .ok (.rsa ⟨15, 3, [3]⟩) ∧
    Info.ofFile [0x30, 34, 2, 1, 0, 0x30, 13, 6, 9, 42, 134, 72, 134, 247, 13, 1, 1, 1, 5, 0, 4, 14,
        0x30, 12, 2, 1, 0, 2, 1, 15, 2, 1, 3, 2, 1, 3] =
      .ok ⟨.der, none, .pkcs8, some .rsa, none⟩ ∧
    Info.ofFile [0x30, 9, 0x30, 4, 6, 2, 42, 3, 4, 1, 0] =
      .ok ⟨.der, none, .encryptedPkcs8, none, some "1.2.3"⟩ := by
  have hrsa : RsaParameters.decode [0x30, 12, 2, 1, 0, 2, 1, 15, 2, 1, 3, 2, 1, 3] =
      .ok ⟨15, 3, [3]⟩ := rfl
  have hprivate : PrivateKeyInfo.decode
      [0x30, 34, 2, 1, 0, 0x30, 13, 6, 9, 42, 134, 72, 134, 247, 13, 1, 1, 1, 5, 0, 4, 14,
        0x30, 12, 2, 1, 0, 2, 1, 15, 2, 1, 3, 2, 1, 3] =
      .ok ⟨.rsa (some [5, 0]), [0x30, 12, 2, 1, 0, 2, 1, 15, 2, 1, 3, 2, 1, 3]⟩ := rfl
  have hencrypted : EncryptedPrivateKeyInfo.decode [0x30, 9, 0x30, 4, 6, 2, 42, 3, 4, 1, 0] =
      .ok ⟨⟨⟨[1, 2, 3]⟩, none⟩, [0]⟩ := rfl
  obtain ⟨-, hfirst⟩ := der_keys_are_detected [0x30, 12, 2, 1, 0, 2, 1, 15, 2, 1, 3, 2, 1, 3]
  obtain ⟨-, hsecond⟩ := der_keys_are_detected
    [0x30, 34, 2, 1, 0, 0x30, 13, 6, 9, 42, 134, 72, 134, 247, 13, 1, 1, 1, 5, 0, 4, 14,
      0x30, 12, 2, 1, 0, 2, 1, 15, 2, 1, 3, 2, 1, 3]
  obtain ⟨-, hthird⟩ := der_keys_are_detected [0x30, 9, 0x30, 4, 6, 2, 42, 3, 4, 1, 0]
  have hfile := ((hfirst (Format.detect_eq_der_iff.1 (by decide))).1 _ hrsa).2 none {}
  have hinfo := ((hsecond (Format.detect_eq_der_iff.1 (by decide))).2.1 _ hprivate).1
  have hshown := ((hthird (Format.detect_eq_der_iff.1 (by decide))).2.2 _ hencrypted).1
  have hname : Info.schemeName ⟨⟨⟨[1, 2, 3]⟩, none⟩, [0]⟩ = .ok "1.2.3" := rfl
  rw [hname] at hshown
  exact ⟨hfile, hinfo, hshown⟩

/-- An RSAPrivateKey with five dashes in its modulus. -/
def dashedKey : Bytes :=
  [0x30, 16, 2, 1, 0, 2, 5, 45, 45, 45, 45, 45, 2, 1, 3, 2, 1, 3]

/-- The key with dashes is accepted by the reader of its structure, but its file is taken for PEM
text and is neither decoded nor inspected. -/
theorem detect_of_dashes_in_modulus :
    RsaParameters.decode dashedKey = .ok ⟨194031463725, 3, [3]⟩ ∧
    Format.detect dashedKey = .pem ∧
    Specification.ofFile dashedKey none {} = .error (.pem .missingBegin) ∧
    Info.ofFile dashedKey = .error (.pem .missingBegin) :=
  ⟨rfl, rfl, rfl, rfl⟩

end Credential.Key
