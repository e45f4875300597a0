import Credential.Key.Decode
import Credential.Proofs.Cipher.RoundTrip
import Credential.Proofs.Key.DerivedLength
import Credential.Proofs.Key.Encoding
import Credential.Proofs.Key.PbeKey
import Credential.Proofs.Key.Printed

/-!
# Encrypted PKCS#8 keys decrypt to the key that was encrypted

`pbe_round_trip`: a PrivateKeyInfo of a known algorithm is encrypted under any scheme with the key
and the vector of the standards, put into an EncryptedPrivateKeyInfo and printed as a PEM block.
Decoding the text under the password gives the key back as it was.

The structure is read if its content fits a length of 32 bits, which is as far as the reader goes
(`EncryptedPrivateKeyInfo.decode_encode`); salt, number of iterations and key are free beyond that.
-/

namespace Credential.Key

namespace Pbe

namespace Scheme

/-! ## Encryption -/

/-- The object identifier of a scheme. -/
def identifier : Scheme → Der.ObjectIdentifier
  | .md5Des => ⟨[1, 2, 840, 113549, 1, 5, 3]⟩
  | .sha1Des => ⟨[1, 2, 840, 113549, 1, 5, 10]⟩
  | .sha1TripleDes => ⟨[1, 2, 840, 113549, 1, 12, 1, 3]⟩
  | .sha1TwoKeyTripleDes => ⟨[1, 2, 840, 113549, 1, 12, 1, 4]⟩

/-- The ciphertext of a key under a scheme, with the parameters that decryption needs. -/
def encrypt (scheme : Scheme) (params : Parameters) (key vector text : Bytes) :
    EncryptedPrivateKeyInfo where
  encryption := ⟨scheme.identifier, some params.encode⟩
  encryptedData := Cipher.encrypt scheme.cipher .cbc key vector text

theorem ofOid_identifier (scheme : Scheme) : ofOid scheme.identifier = .ok scheme := by
  cases scheme <;> rfl

theorem ofContent_identifier (scheme : Scheme) :
    Der.ObjectIdentifier.ofContent scheme.identifier.content = .ok scheme.identifier := by
  cases scheme <;> exact Der.ObjectIdentifier.ofContent_content (by decide) (by decide) (by decide)

/-- A scheme derives a key from every password that it can encode. -/
theorem exists_standard {scheme : Scheme} {password : Bytes}
    (h : scheme ∈ ofPkcs12 → ∃ s, Text.Utf8.decode? password = some s) (salt : Bytes)
    (iterations : Nat) :
    ∃ key vector, scheme.standard? password salt iterations = some (key, vector) := by
  obtain ⟨⟨key, vector⟩, hderive⟩ := (scheme.exists_derive?_iff password salt iterations).2 h
  rw [derive?_eq_standard] at hderive
  exact ⟨key, vector, hderive⟩

variable {scheme : Scheme} {params : Parameters} {password key vector : Bytes}

theorem decrypt_encrypt
    (hcount : 0 < params.iterationCount ∧ params.iterationCount < Text.Decimal.bound32)
    (hkey : scheme.standard? password params.salt params.iterationCount = some (key, vector))
    (heuristic : Heuristic) (text : Bytes) :
    scheme.decrypt params password (scheme.encrypt params key vector text).encryptedData heuristic =
      .ok text := by
  have hiterations : params.iterations = .ok params.iterationCount := if_pos hcount
  rw [← derive?_eq_standard] at hkey
  obtain ⟨hkeyLength, hvectorLength⟩ := lengths_of_derive? hkey
  have hplain : Cipher.decrypt scheme.cipher .cbc key vector
      (Cipher.encrypt scheme.cipher .cbc key vector text) = .ok text :=
    Cipher.decrypt_encrypt hkeyLength (fun _ => hvectorLength) text
  unfold decrypt
  rw [hiterations]
  dsimp only [bind, Except.bind]
  rw [hkey]
  dsimp only [encrypt]
  rw [hplain]
  rfl

/-- The structure with the ciphertext is read as it was written, its parameters included. -/
theorem decode_encrypt {text : Bytes} (hcount : params.iterationCount < Text.Decimal.bound32)
    (hfits : Der.Fits (scheme.encrypt params key vector text).content) :
    EncryptedPrivateKeyInfo.decode (scheme.encrypt params key vector text).encode =
        .ok (scheme.encrypt params key vector text) ∧
      Parameters.decode params.encode = .ok params := by
  have hle : params.encode.length ≤ (scheme.encrypt params key vector text).content.length :=
    EncryptedPrivateKeyInfo.length_parameters_le rfl
  have hparams : Der.Fits params.content := fits_of_encode hfits hle
  have hreadable : (scheme.encrypt params key vector text).encryption.IsReadable := by
    constructor
    · exact ofContent_identifier scheme
    · intro element helement
      cases helement
      have hread : Der.readElement (params.encode ++ []) = .ok (params.encode, []) :=
        Der.readElement_encode rfl hparams []
      rwa [List.append_nil] at hread
  have hbound : params.iterationCount < Text.Decimal.bound64 :=
    Nat.lt_trans hcount (by decide)
  exact ⟨EncryptedPrivateKeyInfo.decode_encode hreadable hfits,
    Parameters.decode_encode hparams hbound⟩

/-- Decryption of the structure is decoding of the text that was encrypted. -/
theorem decrypt_info {options : Options}
    (hcount : 0 < params.iterationCount ∧ params.iterationCount < Text.Decimal.bound32)
    (hkey : scheme.standard? password params.salt params.iterationCount = some (key, vector))
    (hpolicy : ∀ limit, options.policy.limit = some limit → scheme.keyBits ≤ limit)
    (hparams : Parameters.decode params.encode = .ok params) (text : Bytes) :
    (scheme.encrypt params key vector text).decrypt (some password) options =
      (Specification.ofPkcs8 text).mapError options.heuristic.structureFailure := by
  have hscheme : (scheme.encrypt params key vector text).scheme = .ok scheme :=
    ofOid_identifier scheme
  have hparameters : (scheme.encrypt params key vector text).parameters = .ok params := hparams
  have hcheck := (Policy.check_eq_ok_iff scheme.name).2 hpolicy
  have hplain := decrypt_encrypt hcount hkey options.heuristic text
  unfold EncryptedPrivateKeyInfo.decrypt
  rw [hscheme]
  dsimp only [bind, Except.bind]
  rw [hcheck, hparameters]
  dsimp only
  rw [hplain]

/-! ## Sizes -/

theorem length_identifier_le (scheme : Scheme) : scheme.identifier.content.length ≤ 10 := by
  cases scheme <;> decide +kernel

/-- The parameters of a scheme, each element of which adds at most six octets to its content. -/
theorem length_parameters_le (hcount : params.iterationCount < Text.Decimal.bound32)
    (hsize : params.salt.length + 64 ≤ Text.Decimal.bound32) :
    params.encode.length ≤ params.salt.length + 23 := by
  have hlimit : Text.Decimal.bound32 = 4294967296 := rfl
  have hnumber : (Der.natContent params.iterationCount).length ≤ 5 := by
    have hbits : bitLength params.iterationCount ≤ 32 := bitLength_le_iff.2 hcount
    unfold Der.natContent
    rw [Bytes.length_bigEndian]
    omega
  have hsalt : (Der.encode .octetString params.salt).length ≤ params.salt.length + 6 :=
    length_encode_le _ (by unfold Der.Fits; omega)
  have hcountElement : (Der.encodeNat params.iterationCount).length ≤
      (Der.natContent params.iterationCount).length + 6 :=
    length_encode_le _ (by unfold Der.Fits; omega)
  have hcontent : params.content.length = (Der.encode .octetString params.salt).length +
      (Der.encodeNat params.iterationCount).length := List.length_append
  -- 6 for each of the three elements, and 5 for the number
  have hfits : Der.Fits params.content := by
    unfold Der.Fits
    omega
  have hencode : params.encode.length ≤ params.content.length + 6 := length_encode_le _ hfits
  omega

/-- Salts and keys that together stay 64 octets below the limit of 32 bits fit. -/
theorem fits_encrypt (hvector : vector.length = scheme.cipher.blockSize)
    (hcount : params.iterationCount < Text.Decimal.bound32) {text : Bytes}
    (hsize : params.salt.length + text.length + 64 ≤ Text.Decimal.bound32) :
    Der.Fits (scheme.encrypt params key vector text).content := by
  have hlimit : Text.Decimal.bound32 = 4294967296 := rfl
  have hidentifier := length_identifier_le scheme
  have hparams := length_parameters_le hcount (by omega)
  have hdata : (Cipher.encrypt scheme.cipher .cbc key vector text).length ≤ text.length + 8 := by
    have hblock : scheme.cipher.blockSize = 8 := by
      cases scheme <;> rfl
    have hlength : (Cipher.encrypt scheme.cipher .cbc key vector text).length =
        (Cipher.pad scheme.cipher.blockSize text).length :=
      Cipher.length_encrypt (fun _ => hvector) text
    rw [Cipher.length_pad, hblock] at hlength
    omega
  have hoid : (Der.encode .objectIdentifier scheme.identifier.content).length ≤
      scheme.identifier.content.length + 6 := length_encode_le _ (by unfold Der.Fits; omega)
  have halgorithm : (scheme.encrypt params key vector text).encryption.content.length =
      (Der.encode .objectIdentifier scheme.identifier.content).length + params.encode.length :=
    List.length_append
  have hfits : Der.Fits (scheme.encrypt params key vector text).encryption.content := by
    unfold Der.Fits
    omega
  have hencryption : (scheme.encrypt params key vector text).encryption.encode.length ≤
      (scheme.encrypt params key vector text).encryption.content.length + 6 :=
    length_encode_le _ hfits
  have hoctets : (Der.encode .octetString
      (Cipher.encrypt scheme.cipher .cbc key vector text)).length ≤
        (Cipher.encrypt scheme.cipher .cbc key vector text).length + 6 :=
    length_encode_le _ (by unfold Der.Fits; omega)
  have hcontent : (scheme.encrypt params key vector text).content.length =
      (scheme.encrypt params key vector text).encryption.encode.length +
        (Der.encode .octetString
          (Cipher.encrypt scheme.cipher .cbc key vector text)).length := List.length_append
  unfold Der.Fits
  omega

end Scheme

end Pbe

/-! ## Main result -/

/-- A key of a known algorithm is found again in the PEM block that carries it encrypted under any
scheme, salt, number of iterations and password, if the content of its encoding fits a length of
32 bits. It does so up to 64 octets below that limit for salt and key together
(`Pbe.Scheme.fits_encrypt`). -/
theorem pbe_round_trip {scheme : Pbe.Scheme} {salt : Bytes} {iterations : Nat}
    (hpositive : 0 < iterations) (hcount : iterations < Text.Decimal.bound32) {password : Bytes}
    (hpassword : scheme ∈ Pbe.Scheme.ofPkcs12 → ∃ s, Text.Utf8.decode? password = some s)
    {data : Bytes} {info : PrivateKeyInfo} (hdata : PrivateKeyInfo.decode data = .ok info)
    {algorithm : Algorithm} (halgorithm : info.keyAlgorithm = .ok algorithm) {options : Options}
    (hpolicy : ∀ limit, options.policy.limit = some limit → scheme.keyBits ≤ limit) :
    ∃ key vector, scheme.standard? password salt iterations = some (key, vector) ∧
      (Der.Fits (scheme.encrypt ⟨salt, iterations⟩ key vector data).content →
        ∃ text, Pem.Block.print? (.ofBytes .encryptedPrivateKey
            (scheme.encrypt ⟨salt, iterations⟩ key vector data).encode) = some text ∧
          Specification.ofFile (Text.Utf8.encode text) (some password) options =
            .ok (.pkcs8 info.algorithm.algorithm data)) := by
  obtain ⟨key, vector, hkey⟩ := Pbe.Scheme.exists_standard hpassword salt iterations
  refine ⟨key, vector, hkey, fun hfits => ?_⟩
  obtain ⟨hdecode, hparams⟩ := Pbe.Scheme.decode_encrypt hcount hfits
  have hlabel : Pem.Label.encryptedPrivateKey.IsPrintable :=
    Pem.Label.isPrintable_of_known fun s hs => by cases hs
  have hheaders : ∀ header ∈ ([] : Pem.Headers), header.IsPrintable :=
    fun _ hmem => absurd hmem List.not_mem_nil
  obtain ⟨text, hprint, hfile⟩ := Specification.ofFile_of_print? hlabel hheaders
    (EncryptedPrivateKeyInfo.encode_ne_nil (scheme.encrypt ⟨salt, iterations⟩ key vector data))
  have hspec : Specification.ofPkcs8 data = .ok (.pkcs8 info.algorithm.algorithm data) := by
    unfold Specification.ofPkcs8
    rw [hdata]
    dsimp only [bind, Except.bind]
    rw [halgorithm]
    rfl
  refine ⟨text, hprint, ?_⟩
  rw [hfile, List.map_nil, Specification.ofBlock_encryptedPkcs8]
  unfold Specification.ofEncryptedPkcs8
  rw [hdecode]
  dsimp only [bind, Except.bind]
  rw [Pbe.Scheme.decrypt_info ⟨hpositive, hcount⟩ hkey hpolicy hparams, hspec]
  rfl

/-- A small key under two-key triple DES, an empty salt and a password in ASCII. -/
theorem pbe_round_trip_sha1TwoKeyTripleDes :
    ∃ key vector, Pbe.Scheme.sha1TwoKeyTripleDes.standard? [0x70, 0x77] [] 1 = some (key, vector) ∧
      ∃ text, Pem.Block.print? (.ofBytes .encryptedPrivateKey
          (Pbe.Scheme.sha1TwoKeyTripleDes.encrypt ⟨[], 1⟩ key vector
            [0x30, 20, 2, 1, 0, 0x30, 13, 6, 9, 42, 134, 72, 134, 247, 13, 1, 1, 1, 5, 0, 4,
              0]).encode) = some text ∧
        Specification.ofFile (Text.Utf8.encode text) (some [0x70, 0x77]) {} =
          .ok (.pkcs8 ⟨[1, 2, 840, 113549, 1, 1, 1]⟩
            [0x30, 20, 2, 1, 0, 0x30, 13, 6, 9, 42, 134, 72, 134, 247, 13, 1, 1, 1, 5, 0, 4,
              0]) := by
  have hdata : PrivateKeyInfo.decode
      [0x30, 20, 2, 1, 0, 0x30, 13, 6, 9, 42, 134, 72, 134, 247, 13, 1, 1, 1, 5, 0, 4, 0] =
        .ok ⟨⟨⟨[1, 2, 840, 113549, 1, 1, 1]⟩, some [5, 0]⟩, []⟩ := rfl
  have hpassword : Text.Utf8.decode? [0x70, 0x77] = some (Text.Utf8.ascii [0x70, 0x77]) :=
    Text.Utf8.decode?_of_ascii (by decide +kernel)
  have halgorithm :
      PrivateKeyInfo.keyAlgorithm ⟨⟨⟨[1, 2, 840, 113549, 1, 1, 1]⟩, some [5, 0]⟩, []⟩ =
        .ok .rsa := rfl
  have hpolicy : ∀ limit, ({} : Options).policy.limit = some limit →
      Pbe.Scheme.sha1TwoKeyTripleDes.keyBits ≤ limit := fun _ hlimit => by cases hlimit
  obtain ⟨key, vector, hkey, hfile⟩ := @pbe_round_trip _ [] 1 (by decide) (by decide) _
    (fun _ => ⟨_, hpassword⟩) _ _ hdata _ halgorithm _ hpolicy
  have hderived := hkey
  rw [← Pbe.Scheme.derive?_eq_standard] at hderived
  have hvector := (Pbe.Scheme.lengths_of_derive? hderived).2
  exact ⟨key, vector, hkey, hfile (Pbe.Scheme.fits_encrypt hvector (by decide) (by decide))⟩

end Credential.Key
