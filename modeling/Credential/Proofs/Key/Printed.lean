import Credential.Key.Decode
import Credential.Proofs.Bytes
import Credential.Proofs.Pem.Printing

/-!
# Decoding the text of a PEM block

`Specification.ofFile_of_print?`: a printable block that carries a byte string has a text, and
decoding that text is decoding the block. A printed text is never mistaken for DER
(`Format.detect_of_print?`). For the two kinds of blocks that carry a ciphertext, decoding goes on
with the byte string that the block carries (`ofBlock_rsa_headers`, `ofBlock_encryptedPkcs8`).
-/

namespace Credential.Key

/-- A key file is PEM text if and only if five dashes stand side by side in it. -/
theorem Format.detect_eq_pem_iff {bytes : Bytes} : detect bytes = .pem ↔ marker <:+: bytes := by
  rw [← Bytes.contains_iff_infix]
  unfold detect
  split <;> simp_all

theorem Format.detect_eq_der_iff {bytes : Bytes} : detect bytes = .der ↔ ¬ marker <:+: bytes := by
  rw [← detect_eq_pem_iff]
  cases detect bytes <;> simp

/-- A printed text begins with the dashes that announce PEM. -/
theorem Format.detect_of_print? {block : Pem.Block} {text : String}
    (h : block.print? = some text) : Format.detect (Text.Utf8.encode text) = .pem := by
  obtain ⟨lines, -, rfl⟩ := Option.map_eq_some_iff.1 h
  have hbegin : Text.Utf8.encode "-----BEGIN " = Format.marker ++ [66, 69, 71, 73, 78, 32] := by
    rfl
  apply Format.detect_eq_pem_iff.2
  simp only [Text.Utf8.encode_append, hbegin, List.append_assoc]
  exact (List.prefix_append Format.marker _).isInfix

/-- Decoding the text of a block is decoding the block, as it is read. -/
theorem Specification.ofFile_of_print? {label : Pem.Label} (hlabel : label.IsPrintable)
    {headers : Pem.Headers} (hheaders : ∀ header ∈ headers, header.IsPrintable) {data : Bytes}
    (hdata : data ≠ []) :
    ∃ text, Pem.Block.print? ⟨label, headers, Text.Base64.encode data⟩ = some text ∧
      ∀ password options, ofFile (Text.Utf8.encode text) password options =
        ofBlock ⟨label, headers.map Pem.Header.trimmed, Text.Base64.encode data⟩ password
          options := by
  obtain ⟨text, hprint, hread⟩ := Pem.Block.ofText_of_print? hlabel hheaders hdata
  refine ⟨text, hprint, fun password options => ?_⟩
  have hoctets : Pem.Block.ofOctets (Text.Utf8.encode text) =
      .ok ⟨label, headers.map Pem.Header.trimmed, Text.Base64.encode data⟩ := by
    unfold Pem.Block.ofOctets
    rw [Text.Utf8.decode?_encode]
    exact hread
  unfold ofFile
  rw [Format.detect_of_print? hprint, hoctets]
  rfl

/-! ## Blocks by their label -/

/-- An RSA block with headers is an encrypted one. -/
theorem Specification.ofBlock_rsa_headers {headers : Pem.Headers}
    (h : headers.isEmpty = false) (data : Bytes) (password : Option Bytes) (options : Options) :
    ofBlock ⟨.rsaPrivateKey, headers, Text.Base64.encode data⟩ password options =
      ofLegacy headers data password options := by
  unfold ofBlock
  rw [Pem.Block.decode_encode]
  dsimp only [liftM, monadLift, MonadLift.monadLift, bind, Except.bind, Except.mapError]
  rw [h]
  rfl

/-- An encrypted PKCS#8 block is decoded from what it carries. -/
theorem Specification.ofBlock_encryptedPkcs8 (headers : Pem.Headers) (data : Bytes)
    (password : Option Bytes) (options : Options) :
    ofBlock ⟨.encryptedPrivateKey, headers, Text.Base64.encode data⟩ password options =
      ofEncryptedPkcs8 data password options := by
  unfold ofBlock
  rw [Pem.Block.decode_encode]
  rfl

/-- A policy allows the key sizes up to its limit. -/
theorem Policy.check_eq_ok_iff {policy : Policy} {bits : Nat} (cipher : String) :
    policy.check cipher bits = .ok () ↔ ∀ limit, policy.limit = some limit → bits ≤ limit := by
  unfold Policy.check
  cases policy.limit with
  | none => simp
  | some limit => simp

end Credential.Key
