import Credential.Key.EncryptedPkcs8
import Credential.Proofs.Der.ObjectIdentifier
import Credential.Proofs.Der.Writer

/-!
# Encoded key structures are read as they were written

`decode_encode` for an AlgorithmIdentifier, a PBEParameter, an EncryptedPrivateKeyInfo and a
PrivateKeyInfo whose content fits a length of 32 bits. That one condition is about the outermost
element and covers all elements inside it, which are shorter (`fits_of_encode`).
-/

namespace Credential.Key

/-! ## Contents -/

theorem le_length_encode (tag : Der.Tag) (content : Bytes) :
    content.length ≤ (Der.encode tag content).length := by
  unfold Der.encode Der.element
  rw [List.length_cons, List.length_append]
  omega

/-- The identifier octet and the length field of an element that fits are at most six octets. -/
theorem length_encode_le (tag : Der.Tag) {content : Bytes} (h : Der.Fits content) :
    (Der.encode tag content).length ≤ content.length + 6 := by
  have hlength : (Der.lengthOctets content.length).length ≤ 5 := by
    have hle : byteLength content.length ≤ 4 := Der.byteLength_le_four_iff.2 h
    unfold Der.lengthOctets
    split
    · simp
    · rw [List.length_cons, Bytes.length_bigEndian]
      omega
  unfold Der.encode Der.element
  rw [List.length_cons, List.length_append]
  omega

/-- A part of a content that fits does so. -/
theorem fits_of_le {part whole : Bytes} (h : Der.Fits whole) (hle : part.length ≤ whole.length) :
    Der.Fits part :=
  Nat.lt_of_le_of_lt hle h

/-- What an element in a content that fits is made of fits as well. -/
theorem fits_of_encode {tag : Der.Tag} {content whole : Bytes} (h : Der.Fits whole)
    (hle : (Der.encode tag content).length ≤ whole.length) : Der.Fits content :=
  fits_of_le h (Nat.le_trans (le_length_encode tag content) hle)

/-! ## AlgorithmIdentifier -/

namespace AlgorithmIdentifier

/-- The content of the SEQUENCE. -/
def content (id : AlgorithmIdentifier) : Bytes :=
  Der.encode .objectIdentifier id.algorithm.content ++ id.parameters.getD []

theorem encode_eq (id : AlgorithmIdentifier) : id.encode = Der.encode .sequence id.content := rfl

/-- An identifier that can be read, with parameters that are one element. -/
structure IsReadable (id : AlgorithmIdentifier) : Prop where
  algorithm : Der.ObjectIdentifier.ofContent id.algorithm.content = .ok id.algorithm
  parameters : ∀ element, id.parameters = some element →
    Der.readElement element = .ok (element, [])

theorem decode_encode {id : AlgorithmIdentifier} (h : id.IsReadable) (hfits : Der.Fits id.content) :
    decode id.encode = .ok id := by
  obtain ⟨algorithm, parameters⟩ := id
  have hle : (Der.encode .objectIdentifier algorithm.content).length ≤
      (content ⟨algorithm, parameters⟩).length := by
    unfold content
    dsimp only
    rw [List.length_append]
    omega
  have hread := Der.readObjectIdentifier_encode (fits_of_encode hfits hle) h.algorithm
    (parameters.getD [])
  unfold decode
  rw [encode_eq, Der.sequenceContent_encode hfits]
  dsimp only [bind, Except.bind, liftM, monadLift, MonadLift.monadLift, Except.mapError, content]
  rw [hread]
  dsimp only
  cases parameters with
  | none => rfl
  | some element =>
      have helement := h.parameters element rfl
      have hne : element.isEmpty = false := by
        cases element with
        | nil => cases helement
        | cons b bs => rfl
      rw [Option.getD_some, hne, helement]
      rfl

end AlgorithmIdentifier

/-! ## PBEParameter -/

namespace Pbe.Parameters

/-- The content of the SEQUENCE. -/
def content (params : Parameters) : Bytes :=
  Der.encode .octetString params.salt ++ Der.encodeNat params.iterationCount

theorem encode_eq (params : Parameters) : params.encode = Der.encode .sequence params.content := rfl

theorem decode_encode {params : Parameters} (hfits : Der.Fits params.content)
    (hcount : params.iterationCount < Text.Decimal.bound64) :
    decode params.encode = .ok params := by
  have hle : (Der.encode .octetString params.salt).length ≤ params.content.length := by
    unfold content
    rw [List.length_append]
    omega
  have hsalt := Der.readOctetString_encode (fits_of_encode hfits hle)
    (Der.encodeNat params.iterationCount)
  have hnat := Der.readNat64_encodeNat hcount []
  rw [List.append_nil] at hnat
  unfold decode
  rw [encode_eq, Der.sequenceContent_encode hfits]
  dsimp only [bind, Except.bind, liftM, monadLift, MonadLift.monadLift, Except.mapError, content]
  rw [hsalt]
  dsimp only
  rw [hnat]
  rfl

end Pbe.Parameters

/-! ## EncryptedPrivateKeyInfo -/

namespace EncryptedPrivateKeyInfo

/-- The content of the SEQUENCE. -/
def content (info : EncryptedPrivateKeyInfo) : Bytes :=
  info.encryption.encode ++ Der.encode .octetString info.encryptedData

theorem encode_eq (info : EncryptedPrivateKeyInfo) :
    info.encode = Der.encode .sequence info.content := rfl

theorem encode_ne_nil (info : EncryptedPrivateKeyInfo) : info.encode ≠ [] :=
  List.cons_ne_nil _ _

theorem decode_encode {info : EncryptedPrivateKeyInfo} (h : info.encryption.IsReadable)
    (hfits : Der.Fits info.content) : decode info.encode = .ok info := by
  have hlength : info.content.length = info.encryption.encode.length +
      (Der.encode .octetString info.encryptedData).length := List.length_append
  have hencryption : Der.Fits info.encryption.content := by
    have hle : (Der.encode .sequence info.encryption.content).length ≤ info.content.length := by
      rw [← AlgorithmIdentifier.encode_eq]
      omega
    exact fits_of_encode hfits hle
  have hdata : Der.Fits info.encryptedData := by
    have hle : (Der.encode .octetString info.encryptedData).length ≤ info.content.length := by
      omega
    exact fits_of_encode hfits hle
  have hfirst : Der.readElement info.content =
      .ok (info.encryption.encode, Der.encode .octetString info.encryptedData) :=
    Der.readElement_encode rfl hencryption _
  have hsecond := Der.readOctetString_encode hdata []
  rw [List.append_nil] at hsecond
  unfold decode
  rw [encode_eq, Der.sequenceContent_encode hfits]
  dsimp only [bind, Except.bind, liftM, monadLift, MonadLift.monadLift, Except.mapError]
  rw [hfirst]
  dsimp only
  rw [AlgorithmIdentifier.decode_encode h hencryption]
  dsimp only
  rw [hsecond]
  rfl

/-- The parameters of the encryption are part of the content. -/
theorem length_parameters_le {info : EncryptedPrivateKeyInfo} {element : Bytes}
    (h : info.encryption.parameters = some element) : element.length ≤ info.content.length := by
  have hidentifier : element.length ≤ info.encryption.content.length := by
    unfold AlgorithmIdentifier.content
    rw [h, List.length_append, Option.getD_some]
    omega
  have hencode : info.encryption.content.length ≤ info.encryption.encode.length :=
    le_length_encode .sequence _
  have hcontent : info.content.length = info.encryption.encode.length +
      (Der.encode .octetString info.encryptedData).length := List.length_append
  omega

end EncryptedPrivateKeyInfo

/-! ## PrivateKeyInfo -/

namespace PrivateKeyInfo

/-- The content of the SEQUENCE, with `tail` for the attributes. -/
def content (info : PrivateKeyInfo) (tail : Bytes) : Bytes :=
  Der.encodeNat 0 ++ info.algorithm.encode ++ Der.encode .octetString info.privateKey ++ tail

theorem encode_eq (info : PrivateKeyInfo) (tail : Bytes) :
    info.encode tail = Der.encode .sequence (info.content tail) := rfl

/-- A key is read as it was written, whatever the attributes. -/
theorem decode_encode {info : PrivateKeyInfo} (h : info.algorithm.IsReadable) {tail : Bytes}
    (hfits : Der.Fits (info.content tail)) : decode (info.encode tail) = .ok info := by
  have hparts : info.content tail = Der.encodeNat 0 ++ (info.algorithm.encode ++
      (Der.encode .octetString info.privateKey ++ tail)) := by
    unfold content
    rw [List.append_assoc, List.append_assoc]
  have hlength : (info.content tail).length = (Der.encodeNat 0).length +
      (info.algorithm.encode.length + ((Der.encode .octetString info.privateKey).length +
        tail.length)) := by
    rw [hparts, List.length_append, List.length_append, List.length_append]
  have halgorithm : Der.Fits info.algorithm.content := by
    have hle :
        (Der.encode .sequence info.algorithm.content).length ≤ (info.content tail).length := by
      rw [← AlgorithmIdentifier.encode_eq]
      omega
    exact fits_of_encode hfits hle
  have hkey : Der.Fits info.privateKey := by
    have hle : (Der.encode .octetString info.privateKey).length ≤ (info.content tail).length := by
      omega
    exact fits_of_encode hfits hle
  have hversion := Der.readNat64_encodeNat (by decide : 0 < Text.Decimal.bound64)
    (info.algorithm.encode ++ (Der.encode .octetString info.privateKey ++ tail))
  have hidentifier : Der.readElement (info.algorithm.encode ++
      (Der.encode .octetString info.privateKey ++ tail)) =
      .ok (info.algorithm.encode, Der.encode .octetString info.privateKey ++ tail) :=
    Der.readElement_encode rfl halgorithm _
  have hprivate := Der.readOctetString_encode hkey tail
  unfold decode
  rw [encode_eq, Der.sequenceContent_encode hfits]
  dsimp only [bind, Except.bind, liftM, monadLift, MonadLift.monadLift, Except.mapError]
  rw [hparts, hversion]
  dsimp only
  rw [if_neg (by decide)]
  dsimp only [pure, Except.pure]
  rw [hidentifier]
  dsimp only
  rw [AlgorithmIdentifier.decode_encode h halgorithm]
  dsimp only
  rw [hprivate]

end PrivateKeyInfo

end Credential.Key
