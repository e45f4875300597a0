import Credential.Key.PrivateKey
import Credential.Proofs.Der.Reading
import Credential.Proofs.Key.Encoding
import Credential.Proofs.Key.LegacyRoundTrip
import Credential.Proofs.Key.Printed

/-!
# One key in all its encodings

An RSA key is kept as an RSAPrivateKey, or as a PrivateKeyInfo around one, and both are kept as they
are or as the payload of a PEM block. All four files give the same key, or the same fault, whatever
the password and the options (`format_equivalence`).

A structure that is accepted has the tags by which it is told (`classify_of_rsaPrivateKey`,
`classify_of_privateKeyInfo`), so its DER file is decoded as that structure, and so is the block
with the label of the structure (`Specification.ofFile_block`). A DER file is mistaken for PEM only
if five dashes stand side by side in it.
-/

namespace Credential.Key

variable {r w data content rest : Bytes} {params : RsaParameters} {info : PrivateKeyInfo}
  {id : AlgorithmIdentifier} {structure_ : DerStructure}

/-! ## The tags of a structure -/

/-- The structure of a SEQUENCE with an integer at its beginning is told by the element after it. -/
theorem DerStructure.classify_of_integer {first : Bytes}
    (hcontent : Der.sequenceContent data = .ok content)
    (hfirst : Der.readValue .integer content = .ok (first, rest)) :
    (Der.peekTag rest = some .integer → classify data = .ok .pkcs1) ∧
      (Der.peekTag rest = some .sequence → classify data = .ok .pkcs8) := by
  have hsequence := Der.readSequence_of_sequenceContent hcontent
  have htag := Der.peekTag_of_readValue hfirst
  have hany := Der.readValue_eq_ok_iff.1 hfirst
  unfold classify
  rw [hsequence]
  dsimp only [bind, Except.bind, liftM, monadLift, MonadLift.monadLift, Except.mapError]
  rw [htag]
  dsimp only
  rw [hany]
  constructor <;> intro hnext
  · simp [hnext, pure, Except.pure]
  · simp [hnext, pure, Except.pure]

/-- An RSAPrivateKey begins with two integers. -/
theorem DerStructure.classify_of_rsaPrivateKey (h : RsaParameters.decode r = .ok params) :
    classify r = .ok .pkcs1 := by
  obtain ⟨content, hcontent, h⟩ := bind_eq_ok_iff.1 h
  obtain ⟨⟨version, rest⟩, hversion, h⟩ := bind_eq_ok_iff.1 h
  dsimp only at h
  split at h
  · cases h
  · obtain ⟨⟨modulus, left⟩, hmodulus, h⟩ := bind_eq_ok_iff.1 h
    obtain ⟨first, hfirst⟩ := Der.readValue_of_readNat64 (mapError_eq_ok_iff.1 hversion)
    obtain ⟨second, hsecond⟩ := Der.readValue_of_readNat (mapError_eq_ok_iff.1 hmodulus)
    exact (classify_of_integer (mapError_eq_ok_iff.1 hcontent) hfirst).1
      (Der.peekTag_of_readValue hsecond)

theorem AlgorithmIdentifier.peekTag_of_decode (h : decode data = .ok id) :
    Der.peekTag data = some .sequence := by
  obtain ⟨content, hcontent, -⟩ := bind_eq_ok_iff.1 h
  exact Der.peekTag_of_readValue
    (Der.readSequence_of_sequenceContent (mapError_eq_ok_iff.1 hcontent))

/-- A PrivateKeyInfo begins with an integer and a sequence. -/
theorem DerStructure.classify_of_privateKeyInfo (h : PrivateKeyInfo.decode w = .ok info) :
    classify w = .ok .pkcs8 := by
  obtain ⟨content, hcontent, h⟩ := bind_eq_ok_iff.1 h
  obtain ⟨⟨version, rest⟩, hversion, h⟩ := bind_eq_ok_iff.1 h
  dsimp only at h
  split at h
  · cases h
  · obtain ⟨⟨identifier, left⟩, hidentifier, h⟩ := bind_eq_ok_iff.1 h
    obtain ⟨id, hid, -⟩ := bind_eq_ok_iff.1 h
    obtain ⟨first, hfirst⟩ := Der.readValue_of_readNat64 (mapError_eq_ok_iff.1 hversion)
    exact (classify_of_integer (mapError_eq_ok_iff.1 hcontent) hfirst).2
      (Der.peekTag_of_readElement (mapError_eq_ok_iff.1 hidentifier)
        (AlgorithmIdentifier.peekTag_of_decode hid))

/-! ## A file and the block that carries it -/

/-- The label of the block that carries a structure. -/
def DerStructure.label : DerStructure → Pem.Label
  | .pkcs1 => .rsaPrivateKey
  | .pkcs8 => .privateKey
  | .encryptedPkcs8 => .encryptedPrivateKey

theorem DerStructure.isPrintable_label (structure_ : DerStructure) :
    structure_.label.IsPrintable := by
  apply Pem.Label.isPrintable_of_known
  cases structure_ <;> simp [label]

theorem DerStructure.ne_nil_of_classify (h : classify data = .ok structure_) : data ≠ [] := by
  rintro rfl
  cases h

theorem Specification.ofFile_of_classify (hclassify : DerStructure.classify data = .ok structure_)
    (hmarker : ¬ Format.marker <:+: data) (password : Option Bytes) (options : Options) :
    ofFile data password options = ofDer structure_ data password options := by
  unfold ofFile
  rw [Format.detect_eq_der_iff.2 hmarker, hclassify]
  rfl

/-- A block without headers is decoded as the structure of its label. -/
theorem Specification.ofBlock_ofBytes (structure_ : DerStructure) (data : Bytes)
    (password : Option Bytes) (options : Options) :
    ofBlock (.ofBytes structure_.label data) password options =
      ofDer structure_ data password options := by
  unfold ofBlock Pem.Block.ofBytes
  rw [Pem.Block.decode_encode]
  cases structure_ <;> rfl

/-- A DER file and the block that carries it are decoded alike. -/
theorem Specification.ofFile_block (hclassify : DerStructure.classify data = .ok structure_)
    (hmarker : ¬ Format.marker <:+: data) :
    ∃ text, (Pem.Block.ofBytes structure_.label data).print? = some text ∧
      ∀ password options, ofFile (Text.Utf8.encode text) password options =
        ofFile data password options := by
  obtain ⟨text, hprint, htext⟩ := ofFile_of_print? structure_.isPrintable_label
    (List.forall_mem_nil _) (DerStructure.ne_nil_of_classify hclassify)
  refine ⟨text, hprint, fun password options => ?_⟩
  rw [htext, ofFile_of_classify hclassify hmarker]
  exact ofBlock_ofBytes structure_ data password options

/-! ## The key in each encoding -/

theorem PrivateKey.ofFile_block (hclassify : DerStructure.classify data = .ok structure_)
    (hmarker : ¬ Format.marker <:+: data) :
    ∃ text, (Pem.Block.ofBytes structure_.label data).print? = some text ∧
      ∀ password options, ofFile (Text.Utf8.encode text) password options =
        ofFile data password options := by
  obtain ⟨text, hprint, hspec⟩ := Specification.ofFile_block hclassify hmarker
  refine ⟨text, hprint, fun password options => ?_⟩
  unfold ofFile
  rw [hspec]

/-- The key of an RSAPrivateKey is the one with its numbers. -/
theorem PrivateKey.ofFile_of_rsaPrivateKey (hr : RsaParameters.decode r = .ok params)
    (hmarker : ¬ Format.marker <:+: r) (password : Option Bytes) (options : Options) :
    ofFile r password options = (Rsa.PrivateKey.ofParameters params).map .rsa := by
  have hspec : Specification.ofFile r password options = .ok (.rsa params) := by
    rw [Specification.ofFile_of_classify (DerStructure.classify_of_rsaPrivateKey hr) hmarker]
    exact congrArg (Except.map Specification.rsa) hr
  unfold ofFile
  rw [hspec]
  rfl

/-- The key of a PrivateKeyInfo around an RSAPrivateKey is the one with the numbers inside. -/
theorem PrivateKey.ofFile_of_privateKeyInfo (hr : RsaParameters.decode r = .ok params)
    (hw : PrivateKeyInfo.decode w = .ok info) (halgorithm : info.keyAlgorithm = .ok .rsa)
    (hkey : info.privateKey = r) (hmarker : ¬ Format.marker <:+: w) (password : Option Bytes)
    (options : Options) :
    ofFile w password options = (Rsa.PrivateKey.ofParameters params).map .rsa := by
  have hspec : Specification.ofFile w password options =
      .ok (.pkcs8 info.algorithm.algorithm w) := by
    rw [Specification.ofFile_of_classify (DerStructure.classify_of_privateKeyInfo hw) hmarker]
    unfold Specification.ofDer Specification.ofPkcs8
    rw [hw]
    dsimp only [bind, Except.bind]
    rw [halgorithm]
    rfl
  unfold ofFile
  rw [hspec]
  -- the structure that was kept whole is read once more
  change ((PrivateKeyInfo.decode w : Outcome Error PrivateKeyInfo) >>= ofInfo) = _
  rw [hw]
  change ofInfo info = _
  unfold ofInfo
  rw [halgorithm, hkey, hr]
  change (Rsa.PrivateKey.ofParameters params).bind (fun key => .ok (PrivateKey.rsa key)) = _
  cases Rsa.PrivateKey.ofParameters params <;> rfl

/-! ## Main result -/

/-- The identifier of RSA, with optional parameters. -/
def AlgorithmIdentifier.rsa (parameters : Option Bytes) : AlgorithmIdentifier :=
  ⟨⟨[1, 2, 840, 113549, 1, 1, 1]⟩, parameters⟩

theorem AlgorithmIdentifier.isReadable_rsa {parameters : Option Bytes}
    (h : ∀ element, parameters = some element → Der.readElement element = .ok (element, [])) :
    (rsa parameters).IsReadable where
  algorithm := Der.ObjectIdentifier.ofContent_content (by decide) (by decide) (by decide)
  parameters := h

/-- The same key comes out of an RSAPrivateKey, out of every PrivateKeyInfo around it, and out of
the blocks of both, for every password and under all options: it is the key with the numbers inside,
or the fault of these numbers. A PrivateKeyInfo may have any parameters and any attributes. And
every DER file that is told to be of a structure gives the same as the block with the label of that
structure, faults included. -/
theorem format_equivalence :
    (∀ r w params info, RsaParameters.decode r = .ok params → PrivateKeyInfo.decode w = .ok info →
      info.keyAlgorithm = .ok .rsa → info.privateKey = r →
      ¬ Format.marker <:+: r → ¬ Format.marker <:+: w →
      ∃ rText wText, (Pem.Block.ofBytes .rsaPrivateKey r).print? = some rText ∧
        (Pem.Block.ofBytes .privateKey w).print? = some wText ∧
        ∀ file ∈ [r, w, Text.Utf8.encode rText, Text.Utf8.encode wText], ∀ password options,
          PrivateKey.ofFile file password options =
            (Rsa.PrivateKey.ofParameters params).map .rsa) ∧
    (∀ r parameters tail,
      (∀ element, parameters = some element → Der.readElement element = .ok (element, [])) →
      Der.Fits (PrivateKeyInfo.content ⟨.rsa parameters, r⟩ tail) →
      PrivateKeyInfo.decode (PrivateKeyInfo.encode ⟨.rsa parameters, r⟩ tail) =
          .ok ⟨.rsa parameters, r⟩ ∧
        PrivateKeyInfo.keyAlgorithm ⟨.rsa parameters, r⟩ = .ok .rsa) ∧
    (∀ data structure_, DerStructure.classify data = .ok structure_ →
      ¬ Format.marker <:+: data →
      ∃ text, (Pem.Block.ofBytes structure_.label data).print? = some text ∧
        ∀ password options, Specification.ofFile (Text.Utf8.encode text) password options =
          Specification.ofFile data password options) := by
  refine ⟨?_, ?_, fun data structure_ => Specification.ofFile_block⟩
  · intro r w params info hr hw halgorithm hkey hmarkerR hmarkerW
    obtain ⟨rText, hprintR, htextR⟩ :=
      PrivateKey.ofFile_block (DerStructure.classify_of_rsaPrivateKey hr) hmarkerR
    obtain ⟨wText, hprintW, htextW⟩ :=
      PrivateKey.ofFile_block (DerStructure.classify_of_privateKeyInfo hw) hmarkerW
    have hfileR := PrivateKey.ofFile_of_rsaPrivateKey hr hmarkerR
    have hfileW := PrivateKey.ofFile_of_privateKeyInfo hr hw halgorithm hkey hmarkerW
    refine ⟨rText, wText, hprintR, hprintW, ?_⟩
    intro file hfile password options
    simp only [List.mem_cons, List.not_mem_nil, or_false] at hfile
    rcases hfile with rfl | rfl | rfl | rfl
    · exact hfileR password options
    · exact hfileW password options
    · exact (htextR password options).trans (hfileR password options)
    · exact (htextW password options).trans (hfileW password options)
  · intro r parameters tail hparameters hfits
    exact ⟨PrivateKeyInfo.decode_encode (AlgorithmIdentifier.isReadable_rsa hparameters) hfits, rfl⟩

/-- A small key whose PrivateKeyInfo has parameters and attributes, and an encrypted key that is
broken. -/
theorem format_equivalence_small :
    (∃ rText wText,
      (Pem.Block.ofBytes .rsaPrivateKey
        [0x30, 12, 2, 1, 0, 2, 1, 15, 2, 1, 3, 2, 1, 3]).print? = some rText ∧
      (Pem.Block.ofBytes .privateKey
        [0x30, 36, 2, 1, 0, 0x30, 13, 6, 9, 42, 134, 72, 134, 247, 13, 1, 1, 1, 5, 0, 4, 14, 0x30,
          12, 2, 1, 0, 2, 1, 15, 2, 1, 3, 2, 1, 3, 0xa0, 0]).print? = some wText ∧
      PrivateKey.ofFile (Text.Utf8.encode rText) none {} =
        PrivateKey.ofFile (Text.Utf8.encode wText) (some [0x70]) {}) ∧
    ∃ text, (Pem.Block.ofBytes .encryptedPrivateKey [0x30, 2, 0x30, 0]).print? = some text ∧
      Specification.ofFile (Text.Utf8.encode text) none {} = .error (.der .unexpectedEnd) := by
  have hr : RsaParameters.decode [0x30, 12, 2, 1, 0, 2, 1, 15, 2, 1, 3, 2, 1, 3] =
      .ok ⟨15, 3, [3]⟩ := rfl
  have hw : PrivateKeyInfo.decode
      [0x30, 36, 2, 1, 0, 0x30, 13, 6, 9, 42, 134, 72, 134, 247, 13, 1, 1, 1, 5, 0, 4, 14, 0x30,
        12, 2, 1, 0, 2, 1, 15, 2, 1, 3, 2, 1, 3, 0xa0, 0] =
      .ok ⟨.rsa (some [5, 0]), [0x30, 12, 2, 1, 0, 2, 1, 15, 2, 1, 3, 2, 1, 3]⟩ := rfl
  have hclassify : DerStructure.classify [0x30, 2, 0x30, 0] = .ok .encryptedPkcs8 := rfl
  obtain ⟨rText, wText, hprintR, hprintW, hsame⟩ := format_equivalence.1 _ _ _ _ hr hw rfl rfl
    (Format.detect_eq_der_iff.1 (by decide)) (Format.detect_eq_der_iff.1 (by decide))
  obtain ⟨text, hprint, hspec⟩ := format_equivalence.2.2 _ _ hclassify
    (Format.detect_eq_der_iff.1 (by decide))
  refine ⟨⟨rText, wText, hprintR, hprintW, ?_⟩, text, hprint, ?_⟩
  · exact (hsame _ (by simp) none {}).trans (hsame _ (by simp) (some [0x70]) {}).symm
  · rw [hspec]
    rfl

end Credential.Key
