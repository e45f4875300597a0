import Credential.Proofs.Cipher.RoundTrip
import Credential.Proofs.Key.ChainedKey
import Credential.Proofs.Key.DekInfo
import Credential.Proofs.Key.DerivedLength
import Credential.Proofs.Key.Printed

/-!
# Encrypted PEM blocks decrypt to the key that was encrypted

`legacy_round_trip`: an RSA key is encrypted under any cipher that a name can write, with the key of
EVP_BytesToKey and the vector of the header, and printed as a PEM block with the headers `Proc-Type`
and `DEK-Info`. Decoding the text under the password gives the key back.

The proof follows the text through its stages: the block and its headers (`ofFile_of_print?`,
`get?_of_perm`), the cipher and vector that the header names (`DekInfo.ofText_append`), the derived
key (`deriveKey_eq`) and the decryption (`Cipher.decrypt_encrypt`).
-/

namespace Credential.Key

namespace Legacy

/-! ## Encryption -/

namespace Cipher

/-- The ciphertext of a text under a key. -/
def encrypt (cipher : Cipher) (key vector text : Bytes) : Bytes :=
  match cipher with
  | .block algorithm mode => Credential.Cipher.encrypt algorithm mode key vector text
  | .rc4 _ =>
    Bytes.xor text (Credential.Cipher.Rc4.stream text.length (Credential.Cipher.Rc4.setup key))

variable {cipher : Cipher} {key vector : Bytes}

theorem decrypt_encrypt (hnamed : cipher.IsNamed) (hkey : key.length = cipher.keyLength)
    (hvector : cipher.VectorFits vector) (text : Bytes) :
    cipher.decrypt key vector (cipher.encrypt key vector text) = .ok text := by
  cases cipher with
  | block algorithm mode =>
      exact Credential.Cipher.decrypt_encrypt hkey hvector.length_eq text
  | rc4 keyBits =>
      have hlength := keyLength_of_isNamed hnamed
      rw [← hkey] at hlength
      exact Credential.Cipher.rc4_xor_stream hlength text

theorem encrypt_ne_nil (hvector : cipher.VectorFits vector) {text : Bytes} (h : text ≠ []) :
    cipher.encrypt key vector text ≠ [] := by
  have hpos : 0 < text.length := List.length_pos_iff.2 h
  cases cipher with
  | block algorithm mode => exact Credential.Cipher.encrypt_ne_nil hvector.length_eq h
  | rc4 keyBits =>
      apply List.length_pos_iff.1
      unfold encrypt
      dsimp only
      rw [Bytes.length_xor, Credential.Cipher.Rc4.length_stream]
      omega

end Cipher

end Legacy

/-! ## Headers -/

/-- The only header with a name is the one that is looked up. -/
theorem get?_of_unique {headers : Pem.Headers} {header : Pem.Header} {name : String}
    (hmem : header ∈ headers) (hname : Pem.sameName header.name name = true)
    (hunique : ∀ other ∈ headers, Pem.sameName other.name name = true → other = header) :
    headers.get? name = some header.value := by
  have hfound : (headers.find? fun other => Pem.sameName other.name name) = some header := by
    induction headers with
    | nil => cases hmem
    | cons first rest ih =>
        by_cases hfirst : Pem.sameName first.name name = true
        · have heq : first = header := hunique first List.mem_cons_self hfirst
          rw [← heq]
          exact List.find?_cons_of_pos hfirst
        · have hrest : header ∈ rest := by
            rcases List.mem_cons.1 hmem with rfl | hrest
            · exact absurd hname hfirst
            · exact hrest
          have hskip : ((first :: rest).find? fun other => Pem.sameName other.name name) =
              rest.find? fun other => Pem.sameName other.name name :=
            List.find?_cons_of_neg hfirst
          rw [hskip]
          exact ih hrest fun other ho => hunique other (List.mem_cons_of_mem _ ho)
  unfold Pem.Headers.get?
  rw [hfound]
  rfl

/-- A name in any letter case. -/
theorem sameName_of_lower {name lower known : String}
    (h : name.toList.map Char.toLower = lower.toList) :
    Pem.sameName name known = (lower.toList == known.toList.map Char.toLower) := by
  unfold Pem.sameName
  rw [h]

/-- A name in any letter case can stand in a header, if its lower case can. -/
theorem isPrintable_of_lower {name lower value : String}
    (h : name.toList.map Char.toLower = lower.toList) (hne : lower.toList ≠ [])
    (hblank : lower.toList.any Text.isBlank = false) (hcolon : ':' ∉ lower.toList)
    (hvalue : '\n' ∉ value.toList) : (⟨name, value⟩ : Pem.Header).IsPrintable where
  name_ne_nil := by
    intro hnil
    rw [hnil] at h
    exact hne h.symm
  trim_name := by
    apply Text.trim_of_map_toLower
    rw [h]
    intro c hc
    simpa using List.any_eq_false.1 hblank c hc
  colon_not_mem := Text.not_mem_of_map_toLower (by decide) (h ▸ hcolon)
  feed_not_mem_name := by
    apply Text.not_mem_of_map_toLower (by decide)
    rw [h]
    intro hfeed
    exact List.any_eq_false.1 hblank _ hfeed (by decide)
  feed_not_mem_value := hvalue

/-! ## Decryption of a block -/

namespace Legacy

/-- A block whose headers name a cipher and a vector that fits. -/
theorem decrypt_of_headers {headers : Pem.Headers} {cipher : Cipher} {vector : Bytes}
    (hproc : headers.contains Pem.procType = true)
    (hdek : dekInfoOf headers = .ok ⟨cipher, vector⟩) (hnamed : cipher.IsNamed)
    (hvector : cipher.VectorFits vector) {options : Options}
    (hpolicy : ∀ limit, options.policy.limit = some limit → cipher.keyBits ≤ limit)
    (password text : Bytes) :
    decrypt headers (cipher.encrypt (evpBytesToKey password (vector.take 8) cipher.keyLength)
      vector text) (some password) options = .ok text := by
  have hcheck := (Policy.check_eq_ok_iff cipher.name).2 hpolicy
  have hkey := length_deriveKey password (vector.take 8) cipher.keyLength
  have hplain := Cipher.decrypt_encrypt hnamed hkey hvector text
  rw [← deriveKey_eq]
  unfold decrypt
  rw [hproc, hdek]
  dsimp only [bind, Except.bind]
  rw [hcheck]
  dsimp only [DekInfo.salt, saltLength]
  rw [hplain]
  rfl

/-- The two headers of an encrypted block, whose names are in any letter case and whose order is
free, and what is read from them. -/
theorem headers_of_perm {p d v name digits : String} {headers : Pem.Headers}
    (hp : p.toList.map Char.toLower = "proc-type".toList)
    (hd : d.toList.map Char.toLower = "dek-info".toList)
    (hheaders : headers.Perm [⟨p, v⟩, ⟨d, name ++ "," ++ digits⟩]) {cipher : Cipher}
    {vector : Bytes} (hname : Cipher.ofName name = .ok cipher)
    (hvector : cipher.VectorFits vector)
    (hdigits : digits.toList.map Char.toLower = (Text.Hex.encode vector).toList) :
    Pem.Headers.contains (headers.map Pem.Header.trimmed) Pem.procType = true ∧
      dekInfoOf (headers.map Pem.Header.trimmed) = .ok ⟨cipher, vector⟩ := by
  have hread := hheaders.map Pem.Header.trimmed
  have hproc : Pem.sameName p Pem.procType = true := (sameName_of_lower hp).trans (by decide)
  have hprocOther : Pem.sameName d Pem.procType = false := (sameName_of_lower hd).trans (by decide)
  have hdek : Pem.sameName d Pem.dekInfo = true := (sameName_of_lower hd).trans (by decide)
  have hdekOther : Pem.sameName p Pem.dekInfo = false := (sameName_of_lower hp).trans (by decide)
  -- each of the two names is that of one of the two headers only
  have hcases : ∀ other ∈ headers.map Pem.Header.trimmed,
      other = Pem.Header.trimmed ⟨p, v⟩ ∨
        other = Pem.Header.trimmed ⟨d, name ++ "," ++ digits⟩ := by
    intro other ho
    simpa using hread.subset ho
  have hgetProc : Pem.Headers.get? (headers.map Pem.Header.trimmed) Pem.procType =
      some (Pem.Header.trimmed ⟨p, v⟩).value := by
    apply get?_of_unique (hread.symm.subset List.mem_cons_self) hproc
    intro other ho hsame
    rcases hcases other ho with rfl | rfl
    · rfl
    · exact absurd (hprocOther.symm.trans hsame) (by decide)
  have hgetDek : Pem.Headers.get? (headers.map Pem.Header.trimmed) Pem.dekInfo =
      some (Pem.Header.trimmed ⟨d, name ++ "," ++ digits⟩).value := by
    apply get?_of_unique (hread.symm.subset (List.mem_cons_of_mem _ List.mem_cons_self)) hdek
    intro other ho hsame
    rcases hcases other ho with rfl | rfl
    · exact absurd (hdekOther.symm.trans hsame) (by decide)
    · rfl
  constructor
  · unfold Pem.Headers.contains
    rw [hgetProc]
    rfl
  · unfold dekInfoOf
    rw [hgetDek]
    exact DekInfo.ofText_append hname hvector hdigits

theorem isPrintable_of_perm {p d v name digits : String} {headers : Pem.Headers}
    (hp : p.toList.map Char.toLower = "proc-type".toList)
    (hd : d.toList.map Char.toLower = "dek-info".toList) (hv : '\n' ∉ v.toList)
    (hheaders : headers.Perm [⟨p, v⟩, ⟨d, name ++ "," ++ digits⟩]) (hname : '\n' ∉ name.toList)
    {vector : Bytes} (hdigits : digits.toList.map Char.toLower = (Text.Hex.encode vector).toList) :
    ∀ header ∈ headers, header.IsPrintable := by
  have hvalue : '\n' ∉ (name ++ "," ++ digits).toList := by
    have hmark : (",").toList = [','] := rfl
    rw [Text.Hex.toList_encode] at hdigits
    simp only [String.toList_append, hmark, List.mem_append, List.mem_singleton]
    rintro ((hmem | hmem) | hmem)
    · exact hname hmem
    · exact absurd hmem (by decide)
    · exact (Text.Hex.char_of_lower hdigits _ hmem).2 rfl
  intro header hmem
  have hcases : header = ⟨p, v⟩ ∨ header = ⟨d, name ++ "," ++ digits⟩ := by
    simpa using hheaders.subset hmem
  rcases hcases with rfl | rfl
  · exact isPrintable_of_lower hp (by decide) (by decide) (by decide) hv
  · exact isPrintable_of_lower hd (by decide) (by decide) (by decide) hvalue

end Legacy

/-! ## Main result -/

/-- A structure is never read from nothing. -/
theorem RsaParameters.ne_nil_of_decode {data : Bytes} {params : RsaParameters}
    (h : RsaParameters.decode data = .ok params) : data ≠ [] := by
  rintro rfl
  cases h

/-- The numbers of an RSA key are found again in the PEM block that carries the key encrypted under
any cipher, vector and password. -/
theorem legacy_round_trip {name : String} {cipher : Legacy.Cipher}
    (hname : Legacy.Cipher.ofName name = .ok cipher) (hfeed : '\n' ∉ name.toList)
    {vector : Bytes} (hvector : cipher.VectorFits vector) {digits : String}
    (hdigits : digits.toList.map Char.toLower = (Text.Hex.encode vector).toList)
    {p d v : String} (hp : p.toList.map Char.toLower = "proc-type".toList)
    (hd : d.toList.map Char.toLower = "dek-info".toList) (hv : '\n' ∉ v.toList)
    {headers : Pem.Headers} (hheaders : headers.Perm [⟨p, v⟩, ⟨d, name ++ "," ++ digits⟩])
    {key : Bytes} {params : RsaParameters} (hkey : RsaParameters.decode key = .ok params)
    {options : Options}
    (hpolicy : ∀ limit, options.policy.limit = some limit → cipher.keyBits ≤ limit)
    (password : Bytes) :
    ∃ text, Pem.Block.print? ⟨.rsaPrivateKey, headers, Text.Base64.encode
        (cipher.encrypt (Legacy.evpBytesToKey password (vector.take 8) cipher.keyLength) vector
          key)⟩ = some text ∧
      Specification.ofFile (Text.Utf8.encode text) (some password) options =
        .ok (.rsa params) := by
  have hdata : cipher.encrypt (Legacy.evpBytesToKey password (vector.take 8) cipher.keyLength)
      vector key ≠ [] :=
    Legacy.Cipher.encrypt_ne_nil hvector (RsaParameters.ne_nil_of_decode hkey)
  have hprintable := Legacy.isPrintable_of_perm hp hd hv hheaders hfeed hdigits
  have hlabel : Pem.Label.rsaPrivateKey.IsPrintable :=
    Pem.Label.isPrintable_of_known fun s hs => by cases hs
  obtain ⟨text, hprint, hfile⟩ := Specification.ofFile_of_print? hlabel hprintable hdata
  obtain ⟨hproc, hdek⟩ := Legacy.headers_of_perm hp hd hheaders hname hvector hdigits
  have hnamed := Legacy.Cipher.isNamed_of_ofName hname
  have hplain := Legacy.decrypt_of_headers hproc hdek hnamed hvector
    hpolicy password key
  have hspec : Specification.ofPkcs1 key = .ok (.rsa params) := by
    unfold Specification.ofPkcs1
    rw [hkey]
    rfl
  -- headers are what sends the decoder to the decryption
  have hsome : (headers.map Pem.Header.trimmed).isEmpty = false := by
    have hlength := hheaders.length_eq
    cases headers with
    | nil => cases hlength
    | cons first rest => rfl
  refine ⟨text, hprint, ?_⟩
  rw [hfile, Specification.ofBlock_rsa_headers hsome]
  unfold Specification.ofLegacy
  rw [hplain]
  dsimp only [bind, Except.bind]
  rw [hspec]
  rfl

/-- A small key under AES-128-CBC and an empty password. -/
theorem legacy_round_trip_aes128 :
    ∃ text, Pem.Block.print? ⟨.rsaPrivateKey,
        [⟨"PROC-TYPE", "4,ENCRYPTED"⟩,
          ⟨"dek-Info", " aes" ++ "," ++ "000102030405060708090A0b0C0d0E0f"⟩],
        Text.Base64.encode ((Legacy.Cipher.block .aes128 .cbc).encrypt
          (Legacy.evpBytesToKey [] [0, 1, 2, 3, 4, 5, 6, 7] 16)
          [0, 1, 2, 3, 4, 5, 6, 7, 8, 9, 10, 11, 12, 13, 14, 15]
          [0x30, 12, 2, 1, 0, 2, 1, 15, 2, 1, 3, 2, 1, 3])⟩ = some text ∧
      Specification.ofFile (Text.Utf8.encode text) (some []) {} = .ok (.rsa ⟨15, 3, [3]⟩) := by
  have hname : Legacy.Cipher.ofName " aes" = .ok (.block .aes128 .cbc) := rfl
  have hvector : (Legacy.Cipher.block .aes128 .cbc).VectorFits
      [0, 1, 2, 3, 4, 5, 6, 7, 8, 9, 10, 11, 12, 13, 14, 15] := rfl
  have hkey : RsaParameters.decode [0x30, 12, 2, 1, 0, 2, 1, 15, 2, 1, 3, 2, 1, 3] =
      .ok ⟨15, 3, [3]⟩ := rfl
  exact legacy_round_trip hname (by decide) hvector (by decide) (by decide) (by decide) (by decide)
    (List.Perm.refl _) hkey (fun _ hlimit => by cases hlimit) []

end Credential.Key
