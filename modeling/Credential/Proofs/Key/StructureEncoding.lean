import Credential.Key.Pkcs1
import Credential.Proofs.Der.Framing
import Credential.Proofs.Key.Encoding

/-!
# Key structures and their frames

The five structures of key files, RSAPrivateKey, PrivateKeyInfo, AlgorithmIdentifier,
EncryptedPrivateKeyInfo and PBEParameter, are read as they were written
(`structures_undo_encoding`). The numbers of an RSAPrivateKey may have leading zero octets, which do
not count, and it may have further numbers, as a PrivateKeyInfo may have attributes.

All five are one SEQUENCE whose frame is checked before anything inside it (`IsFramed`). So a
structure that is accepted is refused as soon as its last octets are missing or others follow, by
the same fault for all five. An object identifier with a second arc of 40 or more is the one thing
that is not read back (`decode_of_large_second_arc`).
-/

namespace Credential.Key

variable {α : Type} {data : Bytes}

/-! ## Frames -/

/-- A reader of byte strings that are one element. What it accepts is refused without its last
octets, for it ends too early, and with others after it, which are counted. -/
structure IsFramed (decode : Bytes → Except Error α) : Prop where
  truncated : ∀ data a, decode data = .ok a → ∀ part, part <+: data → part ≠ data →
    decode part = .error (.der .unexpectedEnd)
  continued : ∀ data a, decode data = .ok a → ∀ rest, rest ≠ [] →
    decode (data ++ rest) = .error (.der (.trailingData rest.length))

/-- A reader that takes off the frame of a SEQUENCE before it looks at the content. -/
theorem IsFramed.of_sequenceContent {decode next : Bytes → Except Error α}
    (h : ∀ data, decode data = (Der.sequenceContent data).mapError .der >>= next) :
    IsFramed decode where
  truncated := by
    intro data a hdecode part hpart hne
    rw [h] at hdecode
    obtain ⟨content, hcontent, -⟩ := bind_eq_ok_iff.1 hdecode
    rw [h, Der.sequenceContent_truncated (mapError_eq_ok_iff.1 hcontent) hpart hne]
    rfl
  continued := by
    intro data a hdecode rest hne
    rw [h] at hdecode
    obtain ⟨content, hcontent, -⟩ := bind_eq_ok_iff.1 hdecode
    rw [h, Der.sequenceContent_append (mapError_eq_ok_iff.1 hcontent) hne]
    rfl

/-! ## RSAPrivateKey -/

namespace RsaParameters

/-- The content of an RSAPrivateKey whose numbers may have leading zeros, with `tail` after them. -/
def paddedContent (version modulus publicExponent privateExponent : Der.PaddedNat) (tail : Bytes) :
    Bytes :=
  version.encode ++ modulus.encode ++ publicExponent.encode ++ privateExponent.encode ++ tail

/-- Without leading zeros it is the content of the shortest encoding. -/
theorem encode_eq (modulus publicExponent privateExponent : Nat) (tail : Bytes) :
    encode modulus publicExponent privateExponent tail =
      Der.encode .sequence
        (paddedContent ⟨0, 0⟩ ⟨modulus, 0⟩ ⟨publicExponent, 0⟩ ⟨privateExponent, 0⟩ tail) :=
  rfl

variable {version modulus publicExponent privateExponent : Der.PaddedNat} {tail : Bytes}

/-- The numbers are read as they were written, and of the private exponent the shortest octets. -/
theorem decode_padded (hversion : version.value = 0)
    (hfits : Der.Fits (paddedContent version modulus publicExponent privateExponent tail)) :
    decode (Der.encode .sequence
        (paddedContent version modulus publicExponent privateExponent tail)) =
      .ok ⟨modulus.value, publicExponent.value,
        Bytes.bigEndian (byteLength privateExponent.value) privateExponent.value⟩ := by
  have hparts : paddedContent version modulus publicExponent privateExponent tail =
      version.encode ++ (modulus.encode ++ (publicExponent.encode ++
        (privateExponent.encode ++ tail))) := by
    unfold paddedContent
    simp only [List.append_assoc]
  have hlength := congrArg List.length hparts
  simp only [List.length_append] at hlength
  have hpart {number : Der.PaddedNat} (hle : number.encode.length ≤
      (paddedContent version modulus publicExponent privateExponent tail).length) :
      Der.Fits number.octets :=
    fits_of_encode hfits hle
  have hfirst := Der.PaddedNat.readNat64_encode (hpart (by omega))
    (by rw [hversion]; decide : version.value < Text.Decimal.bound64)
    (modulus.encode ++ (publicExponent.encode ++ (privateExponent.encode ++ tail)))
  have hsecond := Der.PaddedNat.readNat_encode (hpart (by omega) : Der.Fits modulus.octets)
    (publicExponent.encode ++ (privateExponent.encode ++ tail))
  have hthird := Der.PaddedNat.readNat_encode (hpart (by omega) : Der.Fits publicExponent.octets)
    (privateExponent.encode ++ tail)
  have hfourth := Der.PaddedNat.readUnsigned_encode
    (hpart (by omega) : Der.Fits privateExponent.octets) tail
  unfold decode
  rw [Der.sequenceContent_encode hfits, hparts]
  dsimp only [bind, Except.bind, liftM, monadLift, MonadLift.monadLift, Except.mapError]
  rw [hfirst]
  dsimp only
  rw [if_neg (not_not_intro hversion)]
  dsimp only [pure, Except.pure]
  rw [hsecond]
  dsimp only
  rw [hthird]
  dsimp only
  rw [hfourth]
  dsimp only [ofOctets]
  rw [Bytes.dropWhile_zero, Der.PaddedNat.toNat_octets]

end RsaParameters

/-! ## Algorithms -/

/-- An algorithm that can be written: DER puts the first two arcs of the identifier in one octet,
and the parameters are one element, whose length field need not be the shortest. -/
structure AlgorithmIdentifier.IsWritable (id : AlgorithmIdentifier) : Prop where
  algorithm : id.algorithm.IsWritable
  parameters : ∀ element, id.parameters = some element → Der.IsElement element

theorem AlgorithmIdentifier.IsWritable.isReadable {id : AlgorithmIdentifier} (h : id.IsWritable) :
    id.IsReadable where
  algorithm := h.algorithm.ofContent
  parameters := by
    intro element helement
    have hread := Der.readElement_append (h.parameters element helement) []
    rwa [List.append_nil] at hread

/-- The identifiers of DER with a second arc below 40 are writable, as DER writes them. -/
theorem isWritable_and_content_eq {first second : Nat} {arcs : List Nat} (hfirst : first ≤ 2)
    (hsecond : second < 40) (harcs : ∀ arc ∈ arcs, arc < Text.Decimal.bound64) :
    (⟨first :: second :: arcs⟩ : Der.ObjectIdentifier).IsWritable ∧
      Der.ObjectIdentifier.content ⟨first :: second :: arcs⟩ =
        Der.ObjectIdentifier.standardContent ⟨first :: second :: arcs⟩ :=
  ⟨⟨first, second, arcs, rfl, hsecond, by omega, harcs⟩,
    Der.ObjectIdentifier.content_eq_standardContent (by omega) arcs⟩

/-! ## All structures -/

/-- The five structures are read as they were written and their frames are checked. The octets of an
identifier with a second arc below 40 are those of DER, and these are the identifiers of DER that
are read back. -/
theorem structures_undo_encoding :
    (∀ (version modulus publicExponent privateExponent : Der.PaddedNat) (tail : Bytes),
      version.value = 0 →
      Der.Fits (RsaParameters.paddedContent version modulus publicExponent privateExponent tail) →
      RsaParameters.decode (Der.encode .sequence
          (RsaParameters.paddedContent version modulus publicExponent privateExponent tail)) =
        .ok ⟨modulus.value, publicExponent.value,
          Bytes.bigEndian (byteLength privateExponent.value) privateExponent.value⟩) ∧
    (∀ (info : PrivateKeyInfo) (tail : Bytes), info.algorithm.IsWritable →
      Der.Fits (info.content tail) → PrivateKeyInfo.decode (info.encode tail) = .ok info) ∧
    (∀ id : AlgorithmIdentifier, id.IsWritable → Der.Fits id.content →
      AlgorithmIdentifier.decode id.encode = .ok id) ∧
    (∀ info : EncryptedPrivateKeyInfo, info.encryption.IsWritable → Der.Fits info.content →
      EncryptedPrivateKeyInfo.decode info.encode = .ok info) ∧
    (∀ params : Pbe.Parameters, params.iterationCount < Text.Decimal.bound64 →
      Der.Fits params.content → Pbe.Parameters.decode params.encode = .ok params) ∧
    (∀ (first second : Nat) (arcs : List Nat), first ≤ 2 → (first < 2 → second < 40) →
      (∀ arc ∈ arcs, arc < Text.Decimal.bound64) →
      (second < 40 → (⟨first :: second :: arcs⟩ : Der.ObjectIdentifier).IsWritable ∧
        Der.ObjectIdentifier.content ⟨first :: second :: arcs⟩ =
          Der.ObjectIdentifier.standardContent ⟨first :: second :: arcs⟩) ∧
      (Der.ObjectIdentifier.ofContent
          (Der.ObjectIdentifier.standardContent ⟨first :: second :: arcs⟩) =
        .ok ⟨first :: second :: arcs⟩ ↔ second < 40)) ∧
    IsFramed RsaParameters.decode ∧ IsFramed PrivateKeyInfo.decode ∧
    IsFramed AlgorithmIdentifier.decode ∧ IsFramed EncryptedPrivateKeyInfo.decode ∧
    IsFramed Pbe.Parameters.decode := by
  refine ⟨?rsa, ?privateKey, ?algorithm, ?encrypted, ?parameters, ?identifier,
    .of_sequenceContent fun _ => rfl, .of_sequenceContent fun _ => rfl,
    .of_sequenceContent fun _ => rfl, .of_sequenceContent fun _ => rfl,
    .of_sequenceContent fun _ => rfl⟩
  case rsa =>
    intro version modulus publicExponent privateExponent tail hversion hfits
    exact RsaParameters.decode_padded hversion hfits
  case privateKey =>
    intro info tail halgorithm hfits
    exact PrivateKeyInfo.decode_encode halgorithm.isReadable hfits
  case algorithm =>
    intro id hid hfits
    exact AlgorithmIdentifier.decode_encode hid.isReadable hfits
  case encrypted =>
    intro info hencryption hfits
    exact EncryptedPrivateKeyInfo.decode_encode hencryption.isReadable hfits
  case parameters =>
    intro params hcount hfits
    exact Pbe.Parameters.decode_encode hfits hcount
  case identifier =>
    intro first second arcs hfirst hsecond harcs
    exact ⟨fun hsmall => isWritable_and_content_eq hfirst hsmall harcs,
      Der.ObjectIdentifier.ofContent_standardContent_iff hfirst hsecond harcs⟩

/-- An RSAPrivateKey with leading zeros and a further number, and an algorithm whose parameters have
a longer length field than they need, without its last octet and with one more. -/
theorem structures_undo_encoding_padded :
    RsaParameters.decode [0x30, 19, 2, 1, 0, 2, 3, 0, 0, 15, 2, 2, 0, 3, 2, 1, 3, 2, 2, 0, 7] =
      .ok ⟨15, 3, [3]⟩ ∧
    AlgorithmIdentifier.decode [0x30, 9, 6, 3, 0x2A, 3, 4, 4, 0x81, 1, 7] =
      .ok ⟨⟨[1, 2, 3, 4]⟩, some [4, 0x81, 1, 7]⟩ ∧
    AlgorithmIdentifier.decode [0x30, 9, 6, 3, 0x2A, 3, 4, 4, 0x81, 1] =
      .error (.der .unexpectedEnd) ∧
    AlgorithmIdentifier.decode [0x30, 9, 6, 3, 0x2A, 3, 4, 4, 0x81, 1, 7, 0] =
      .error (.der (.trailingData 1)) := by
  obtain ⟨hrsa, -, hid, -, -, -, -, -, hframed, -, -⟩ := structures_undo_encoding
  have hpadded := hrsa ⟨0, 0⟩ ⟨15, 2⟩ ⟨3, 1⟩ ⟨3, 0⟩ [2, 2, 0, 7] rfl
    (by unfold Der.Fits; decide +kernel)
  have hpaddedOctets : Der.encode .sequence
      (RsaParameters.paddedContent ⟨0, 0⟩ ⟨15, 2⟩ ⟨3, 1⟩ ⟨3, 0⟩ [2, 2, 0, 7]) =
      [0x30, 19, 2, 1, 0, 2, 3, 0, 0, 15, 2, 2, 0, 3, 2, 1, 3, 2, 2, 0, 7] := by
    decide +kernel
  have hprivate : Bytes.bigEndian (byteLength 3) 3 = [3] := by decide +kernel
  rw [hpaddedOctets, hprivate] at hpadded
  have hlength : Der.LengthField [0x81, 1] 1 :=
    .long (by decide : 0 < [(1 : UInt8)].length) (by decide)
  have hwritable : (⟨⟨[1, 2, 3, 4]⟩, some [4, 0x81, 1, 7]⟩ : AlgorithmIdentifier).IsWritable := by
    refine ⟨⟨1, 2, [3, 4], rfl, by decide, by decide, by decide⟩, ?_⟩
    rintro element ⟨⟩
    exact ⟨4, [0x81, 1], [7], hlength, rfl⟩
  have hread := hid _ hwritable (by unfold Der.Fits; decide +kernel)
  have hoctets : AlgorithmIdentifier.encode ⟨⟨[1, 2, 3, 4]⟩, some [4, 0x81, 1, 7]⟩ =
      [0x30, 9, 6, 3, 0x2A, 3, 4, 4, 0x81, 1, 7] := by
    decide +kernel
  rw [hoctets] at hread
  exact ⟨hpadded, hread, hframed.truncated _ _ hread _ (by decide) (by decide),
    hframed.continued _ _ hread [0] (by decide)⟩

/-- The identifier 2.100.3 has first octets 129 and 52 for 180. The first one alone is read as 3.9,
and 52 as a third arc. -/
theorem decode_of_large_second_arc :
    AlgorithmIdentifier.decode (Der.encode .sequence (Der.encode .objectIdentifier
        (Der.ObjectIdentifier.standardContent ⟨[2, 100, 3]⟩))) = .ok ⟨⟨[3, 9, 52, 3]⟩, none⟩ ∧
      (⟨[3, 9, 52, 3]⟩ : Der.ObjectIdentifier) ≠ ⟨[2, 100, 3]⟩ := by
  have hcontent : Der.ObjectIdentifier.standardContent ⟨[2, 100, 3]⟩ = [0x81, 0x34, 0x03] := by
    decide +kernel
  rw [hcontent]
  exact ⟨rfl, by decide⟩

end Credential.Key
