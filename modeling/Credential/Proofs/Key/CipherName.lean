import Credential.Proofs.Key.DekInfo
import Credential.Proofs.Text.Decimal

/-!
# The names of ciphers

`Cipher.Names` lists the texts that name a cipher, in upper case and without blanks around them:
`RC4` with or without a key size, and nine families with or without a mode.
`Cipher.ofName_eq_ok_iff` says that these are the names that are read, each as the cipher it names,
although the families begin with each other: the parts of a name after its family have to be a mode
(`Cipher.mode?_eq_some_iff`), so a longer family is never read as a shorter one
(`Cipher.algorithm?_family`). The name that is shown of a cipher is among them
(`Cipher.names_name`).

`DekInfo.ofText_eq_ok_iff` says what a header has to be for it to be read: a name, a comma and the
digits of a vector that fits.
-/

namespace Credential.Key.Legacy

open Credential.Cipher (Mode)
open Text.Decimal (Numeral)

namespace Cipher

/-! ## The grammar -/

/-- The families of block ciphers, as they are named, with their algorithms. -/
def families : List (String × Credential.Cipher.Algorithm) :=
  [("AES", .aes128), ("AES-128", .aes128), ("AES-192", .aes192), ("AES-256", .aes256),
    ("DES", .des), ("DES-EDE", .twoKeyTripleDes), ("DES-EDE3", .tripleDes),
    ("DES2", .tripleDes), ("DES3", .tripleDes)]

/-- The texts that name a cipher. RC4 has keys of 128 bits if no size is named, a numeral that may
have a plus sign and zeros in front, and the mode is CBC if none is named. -/
inductive Names : String → Cipher → Prop where
  | rc4 : Names "RC4" (.rc4 128)
  | rc4Bits (bits : Numeral) (h : bits.value = 40 ∨ bits.value = 64 ∨ bits.value = 128) :
      Names ("RC4" ++ "-" ++ String.ofList bits.text) (.rc4 bits.value)
  | family {family : String} {algorithm : Credential.Cipher.Algorithm}
      (h : (family, algorithm) ∈ families) :
      Names family (.block algorithm .cbc)
  | familyMode {family : String} {algorithm : Credential.Cipher.Algorithm}
      (h : (family, algorithm) ∈ families) (mode : Mode) :
      Names (family ++ "-" ++ mode.name) (.block algorithm mode)

/-- A text in upper case, without the blanks around it. -/
def upperTrimmed (s : String) : String :=
  String.ofList ((Text.trim s.toList).map Char.toUpper)

/-! ## Parts -/

/-- The parts of a text between its hyphens. -/
def partsOf (s : String) : List String :=
  (Text.splitOn '-' s.toList).map String.ofList

theorem nameParts_eq (s : String) : nameParts s = partsOf (upperTrimmed s) := by
  unfold nameParts partsOf upperTrimmed
  rw [String.toList_ofList]

/-- A text is its parts. -/
theorem partsOf_inj {s t : String} (h : partsOf s = partsOf t) : s = t := by
  have hparts : Text.splitOn '-' s.toList = Text.splitOn '-' t.toList :=
    (List.map_inj_right fun _ _ => String.ofList_inj.1).1 h
  apply String.toList_inj.1
  rw [← Text.intercalate_splitOn '-' s.toList, hparts, Text.intercalate_splitOn]

/-- A part after a hyphen. -/
theorem partsOf_append {part : String} (h : '-' ∉ part.toList) (s : String) :
    partsOf (s ++ "-" ++ part) = partsOf s ++ [part] := by
  have hlist : (s ++ "-" ++ part).toList = s.toList ++ '-' :: part.toList := by
    simp
  unfold partsOf
  rw [hlist, Text.splitOn_append_cons, Text.splitOn_of_not_mem h]
  simp

theorem hyphen_not_mem_mode (mode : Mode) : '-' ∉ mode.name.toList := by
  cases mode <;> decide

theorem hyphen_not_mem_numeral (bits : Numeral) : '-' ∉ (String.ofList bits.text).toList := by
  rw [String.toList_ofList]
  exact Numeral.not_mem_text rfl (by decide)

/-! ## Reading the parts -/

theorem mode?_eq_some_iff {parts : List String} {mode : Mode} :
    mode? parts = some mode ↔ parts = [] ∧ mode = .cbc ∨ parts = [mode.name] := by
  constructor
  · intro h
    unfold mode? at h
    split at h
    · cases h
      exact Or.inl ⟨rfl, rfl⟩
    · cases h
      exact Or.inr rfl
    · cases h
      exact Or.inr rfl
    · cases h
      exact Or.inr rfl
    · cases h
      exact Or.inr rfl
    · cases h
  · rintro (⟨rfl, rfl⟩ | rfl)
    · rfl
    · cases mode <;> rfl

/-- The parts of a block cipher are those of its family, and others that are left. -/
theorem exists_family_of_algorithm? {parts rest : List String}
    {algorithm : Credential.Cipher.Algorithm} (h : algorithm? parts = some (algorithm, rest)) :
    ∃ family, (family, algorithm) ∈ families ∧ parts = partsOf family ++ rest := by
  unfold algorithm? at h
  split at h
  · cases h
    exact ⟨"AES-128", by decide, rfl⟩
  · cases h
    exact ⟨"AES-192", by decide, rfl⟩
  · cases h
    exact ⟨"AES-256", by decide, rfl⟩
  · cases h
    exact ⟨"AES", by decide, rfl⟩
  · cases h
    exact ⟨"DES-EDE3", by decide, rfl⟩
  · cases h
    exact ⟨"DES-EDE", by decide, rfl⟩
  · cases h
    exact ⟨"DES", by decide, rfl⟩
  · cases h
    exact ⟨"DES3", by decide, rfl⟩
  · cases h
    exact ⟨"DES2", by decide, rfl⟩
  · cases h

/-- A family is read as its algorithm, also one that begins with another family, if nothing or a
mode comes after it. -/
theorem algorithm?_family {family : String} {algorithm : Credential.Cipher.Algorithm}
    (h : (family, algorithm) ∈ families) {rest : List String}
    (hrest : rest = [] ∨ ∃ mode : Mode, rest = [mode.name]) :
    algorithm? (partsOf family ++ rest) = some (algorithm, rest) := by
  have hall : ∀ entry ∈ families, ∀ rest ∈ [] :: Mode.all.map fun mode => [mode.name],
      algorithm? (partsOf entry.1 ++ rest) = some (entry.2, rest) := by
    -- a part that is no mode could make a family a longer one, so only these are tried
    decide +kernel
  apply hall _ h
  rcases hrest with rfl | ⟨mode, rfl⟩
  · exact List.mem_cons_self
  · cases mode <;> decide

theorem rc4Bits?_eq_some_iff {part : List Char} {keyBits : Nat} :
    rc4Bits? part = some keyBits ↔ (keyBits = 40 ∨ keyBits = 64 ∨ keyBits = 128) ∧
      ∃ bits : Numeral, bits.value = keyBits ∧ bits.text = part := by
  unfold rc4Bits?
  rw [Option.filter_eq_some_iff, Text.Decimal.readBelow?_eq_some_iff]
  simp only [Bool.or_eq_true, beq_iff_eq, or_assoc]
  constructor
  · rintro ⟨⟨-, hbits⟩, hsize⟩
    exact ⟨hsize, hbits⟩
  · rintro ⟨hsize, hbits⟩
    have hfits : keyBits < Text.Decimal.bound32 := by
      unfold Text.Decimal.bound32
      omega
    exact ⟨⟨hfits, hbits⟩, hsize⟩

/-- What the parts of a text are read as is what the text names. -/
theorem names_of_ofParts? {s : String} {cipher : Cipher} (h : ofParts? (partsOf s) = some cipher) :
    Names s cipher := by
  -- the parts are those of a name in every case, and a text is its parts
  unfold ofParts? at h
  split at h
  · next hparts =>
      cases h
      obtain rfl : s = "RC4" := partsOf_inj hparts
      exact .rc4
  · next part hparts =>
      obtain ⟨keyBits, hbits, rfl⟩ := Option.map_eq_some_iff.1 h
      obtain ⟨hsize, bits, rfl, htext⟩ := rc4Bits?_eq_some_iff.1 hbits
      have hpart : part = String.ofList bits.text := by rw [htext, String.ofList_toList]
      obtain rfl : s = "RC4" ++ "-" ++ String.ofList bits.text := by
        apply partsOf_inj
        rw [hparts, hpart, partsOf_append (hyphen_not_mem_numeral bits)]
        rfl
      exact .rc4Bits bits hsize
  · split at h
    · next algorithm rest halgorithm =>
        obtain ⟨mode, hmode, rfl⟩ := Option.map_eq_some_iff.1 h
        obtain ⟨family, hfamily, hparts⟩ := exists_family_of_algorithm? halgorithm
        rcases mode?_eq_some_iff.1 hmode with ⟨rfl, rfl⟩ | rfl
        · rw [List.append_nil] at hparts
          obtain rfl := partsOf_inj hparts
          exact .family hfamily
        · rw [← partsOf_append (hyphen_not_mem_mode mode)] at hparts
          obtain rfl := partsOf_inj hparts
          exact .familyMode hfamily mode
    · cases h

/-- The parts of a family, and of a mode if there is one; no family is RC4. -/
theorem ofParts?_family {family : String} {algorithm : Credential.Cipher.Algorithm}
    (h : (family, algorithm) ∈ families) {rest : List String} {mode : Mode}
    (hmode : mode? rest = some mode) :
    ofParts? (partsOf family ++ rest) = some (.block algorithm mode) := by
  have hrest : rest = [] ∨ ∃ mode : Mode, rest = [mode.name] := by
    rcases mode?_eq_some_iff.1 hmode with ⟨rfl, -⟩ | rfl
    · exact Or.inl rfl
    · exact Or.inr ⟨mode, rfl⟩
  have hread := algorithm?_family h hrest
  -- parts that begin with RC4 are not those of a block cipher
  unfold ofParts?
  split
  · next hparts =>
      rw [hparts] at hread
      cases hread
  · next part hparts =>
      rw [hparts] at hread
      cases hread
  · rw [hread]
    exact Option.map_eq_some_iff.2 ⟨mode, hmode, rfl⟩

theorem ofParts?_of_names {s : String} {cipher : Cipher} (h : Names s cipher) :
    ofParts? (partsOf s) = some cipher := by
  cases h with
  | rc4 => rfl
  | rc4Bits bits hsize =>
      have hbits : rc4Bits? bits.text = some bits.value :=
        rc4Bits?_eq_some_iff.2 ⟨hsize, bits, rfl, rfl⟩
      rw [partsOf_append (hyphen_not_mem_numeral bits)]
      change (rc4Bits? (String.ofList bits.text).toList).map Cipher.rc4 = _
      rw [String.toList_ofList, hbits]
      rfl
  | family hfamily =>
      have hread := ofParts?_family hfamily (mode?_eq_some_iff.2 (Or.inl ⟨rfl, rfl⟩))
      rwa [List.append_nil] at hread
  | familyMode hfamily mode =>
      rw [partsOf_append (hyphen_not_mem_mode mode)]
      exact ofParts?_family hfamily (mode?_eq_some_iff.2 (Or.inr rfl))

/-- The names that are read, each as the cipher that it names. -/
theorem ofName_eq_ok_iff {s : String} {cipher : Cipher} :
    ofName s = .ok cipher ↔ Names (upperTrimmed s) cipher := by
  constructor
  · intro h
    have hparts := ofParts?_of_ofName h
    rw [nameParts_eq] at hparts
    exact names_of_ofParts? hparts
  · intro h
    unfold ofName
    rw [nameParts_eq, ofParts?_of_names h]

/-- Every other name is refused as it is. -/
theorem ofName_eq_error_iff {s : String} {e : Error} :
    ofName s = .error e ↔
      (∀ cipher, ¬ Names (upperTrimmed s) cipher) ∧ e = .unsupportedCipher s := by
  unfold ofName
  rw [nameParts_eq]
  split
  · next cipher hparts =>
      refine iff_of_false (fun h => by cases h) ?_
      rintro ⟨hnone, -⟩
      exact hnone cipher (names_of_ofParts? hparts)
  · next hparts =>
      have hnone : ∀ cipher, ¬ Names (upperTrimmed s) cipher := by
        intro cipher hnames
        rw [ofParts?_of_names hnames] at hparts
        cases hparts
      constructor
      · intro h
        cases h
        exact ⟨hnone, rfl⟩
      · rintro ⟨-, rfl⟩
        rfl

/-! ## The name that is shown -/

/-- A cipher is shown by one of its names. -/
theorem names_name {cipher : Cipher} (h : cipher.IsNamed) : Names cipher.name cipher := by
  cases cipher with
  | block algorithm mode =>
      have hfamily : (algorithm.name, algorithm) ∈ families := by cases algorithm <;> decide
      exact .familyMode hfamily mode
  | rc4 keyBits =>
      rcases h with rfl | rfl | rfl
      · exact .rc4Bits (.canonical 40) (by decide)
      · exact .rc4Bits (.canonical 64) (by decide)
      · exact .rc4

/-- Whether a character is neither a blank nor a letter in lower case. -/
def isPlain (c : Char) : Bool :=
  !Text.isBlank c && c.toUpper == c

/-- Plain characters stay as they are. -/
theorem upperTrimmed_of_plain {s : String} (h : s.toList.all isPlain = true) :
    upperTrimmed s = s := by
  have hplain : ∀ c ∈ s.toList, Text.isBlank c = false ∧ c.toUpper = c := by
    intro c hc
    have hc := List.all_eq_true.1 h c hc
    simpa [isPlain] using hc
  unfold upperTrimmed
  rw [Text.trim_of_forall fun c hc => (hplain c hc).1,
    List.map_congr_left fun c hc => (hplain c hc).2, List.map_id', String.ofList_toList]

/-- A name that is shown is in upper case and has no blanks. -/
theorem upperTrimmed_name {cipher : Cipher} (h : cipher.IsNamed) :
    upperTrimmed cipher.name = cipher.name := by
  apply upperTrimmed_of_plain
  cases cipher with
  | block algorithm mode =>
      have halgorithm : algorithm.name.toList.all isPlain = true := by cases algorithm <;> decide
      have hmode : mode.name.toList.all isPlain = true := by cases mode <;> decide
      have hname : (Cipher.block algorithm mode).name.toList =
          algorithm.name.toList ++ '-' :: mode.name.toList := by
        simp [name]
      rw [hname, List.all_append, List.all_cons, halgorithm, hmode]
      rfl
  | rc4 keyBits =>
      rcases h with rfl | rfl | rfl
      · decide
      · decide
      · decide

theorem ofName_name {cipher : Cipher} (h : cipher.IsNamed) : ofName cipher.name = .ok cipher := by
  rw [ofName_eq_ok_iff, upperTrimmed_name h]
  exact names_name h

/-! ## Vectors -/

/-- A vector fits if it has at least the eight octets of the salt, and exactly one block where the
mode takes one. -/
theorem vectorFits_iff_length (cipher : Cipher) (vector : Bytes) :
    cipher.VectorFits vector ↔ 8 ≤ vector.length ∧
      ∀ algorithm mode, cipher = .block algorithm mode → mode ≠ .ecb →
        vector.length = algorithm.blockSize := by
  rw [vectorFits_iff]
  refine and_congr_right fun _ => ?_
  cases cipher with
  | rc4 keyBits => simp [vectorLength?]
  | block algorithm mode =>
      cases mode <;> simp [vectorLength?, Credential.Cipher.Mode.usesVector]

end Cipher

namespace DekInfo

/-- A text that is cut at its first comma. -/
theorem splitAt?_comma_iff {s : String} {before after : List Char} :
    Text.splitAt? ',' s.toList = some (before, after) ↔
      s = String.ofList before ++ "," ++ String.ofList after ∧ ',' ∉ before := by
  have hlist :
      (String.ofList before ++ "," ++ String.ofList after).toList = before ++ ',' :: after := by
    simp
  rw [← String.toList_inj, hlist]
  constructor
  · exact Text.eq_of_splitAt?
  · rintro ⟨hs, hcomma⟩
    rw [hs]
    exact Text.splitAt?_append hcomma after

/-- A header is read if it is a name, a comma and the digits of a vector that fits, with blanks
around either of them. -/
theorem ofText_eq_ok_iff {s : String} {info : DekInfo} :
    ofText s = .ok info ↔ ∃ name digits : String, s = name ++ "," ++ digits ∧ ',' ∉ name.toList ∧
      Cipher.ofName name = .ok info.cipher ∧
      (Text.trim digits.toList).map Char.toLower = (Text.Hex.encode info.vector).toList ∧
      info.cipher.VectorFits info.vector := by
  constructor
  · intro h
    unfold ofText at h
    split at h
    · cases h
    · next before after hcut =>
        obtain ⟨hs, hcomma⟩ := splitAt?_comma_iff.1 hcut
        obtain ⟨cipher, hcipher, h⟩ := bind_eq_ok_iff.1 h
        obtain ⟨vector, hvector, h⟩ := bind_eq_ok_iff.1 h
        obtain ⟨_, hcheck, h⟩ := bind_eq_ok_iff.1 h
        cases h
        have hdigits := Text.Hex.decode_eq_ok_iff.1 (mapError_eq_ok_iff.1 hvector)
        rw [String.toList_ofList] at hdigits
        refine ⟨String.ofList before, String.ofList after, hs, ?_, hcipher, ?_,
          (checkVector_eq_ok_iff _ _).1 hcheck⟩
        · rwa [String.toList_ofList]
        · rwa [String.toList_ofList]
  · rintro ⟨name, digits, hs, hcomma, hcipher, hdigits, hfits⟩
    have hcut : Text.splitAt? ',' s.toList = some (name.toList, digits.toList) := by
      rw [splitAt?_comma_iff, String.ofList_toList, String.ofList_toList]
      exact ⟨hs, hcomma⟩
    have hvector : Text.Hex.decode (String.ofList (Text.trim digits.toList)) = .ok info.vector := by
      rw [Text.Hex.decode_eq_ok_iff, String.toList_ofList]
      exact hdigits
    unfold ofText
    rw [hcut]
    dsimp only
    rw [String.ofList_toList, hcipher, hvector]
    refine bind_eq_ok_iff.2 ⟨_, rfl, bind_eq_ok_iff.2 ⟨_, rfl, bind_eq_ok_iff.2 ⟨(), ?_, rfl⟩⟩⟩
    exact (checkVector_eq_ok_iff _ _).2 hfits

end DekInfo

/-- The names of ciphers and the texts of headers that are read. A name is read exactly if it names
a cipher when it is in upper case and without blanks around it, and as that cipher; any other name
is refused and reported as it was given. The name that is shown of a cipher that was read is read as
that cipher. A header is read exactly if it has a comma, a cipher is named before the first one, and
after it, between blanks, are the digits of at least eight octets, which are one block where the
mode takes one. -/
theorem cipher_names_and_vectors (s : String) :
    (∀ cipher, Cipher.ofName s = .ok cipher ↔ Cipher.Names (Cipher.upperTrimmed s) cipher) ∧
    (∀ e, Cipher.ofName s = .error e ↔
      (∀ cipher, ¬ Cipher.Names (Cipher.upperTrimmed s) cipher) ∧ e = .unsupportedCipher s) ∧
    (∀ cipher, Cipher.ofName s = .ok cipher → Cipher.ofName cipher.name = .ok cipher) ∧
    ∀ info, DekInfo.ofText s = .ok info ↔
      ∃ name digits : String, s = name ++ "," ++ digits ∧ ',' ∉ name.toList ∧
        Cipher.ofName name = .ok info.cipher ∧
        (Text.trim digits.toList).map Char.toLower = (Text.Hex.encode info.vector).toList ∧
        8 ≤ info.vector.length ∧
        ∀ algorithm mode, info.cipher = .block algorithm mode → mode ≠ .ecb →
          info.vector.length = algorithm.blockSize := by
  refine ⟨fun cipher => Cipher.ofName_eq_ok_iff, fun e => Cipher.ofName_eq_error_iff,
    fun cipher h => Cipher.ofName_name (Cipher.isNamed_of_ofName h), fun info => ?_⟩
  rw [DekInfo.ofText_eq_ok_iff]
  simp only [Cipher.vectorFits_iff_length]

/-- A name in lower case between blanks, and a header with a key size that has a plus sign and
zeros. -/
theorem cipher_names_and_vectors_blank :
    Cipher.ofName " des-ede3\t" = .ok (.block .tripleDes .cbc) ∧
      Cipher.ofName (Cipher.block .tripleDes .cbc).name = .ok (.block .tripleDes .cbc) ∧
      ∃ info, DekInfo.ofText "rc4-+0040, 0011223344556677FF" = .ok info ∧
        info.cipher = .rc4 40 := by
  obtain ⟨hname, -, hshown, -⟩ := cipher_names_and_vectors " des-ede3\t"
  have hread : Cipher.ofName " des-ede3\t" = .ok (.block .tripleDes .cbc) :=
    (hname _).2 (.family (by decide))
  obtain ⟨hbits, -⟩ := cipher_names_and_vectors "rc4-+0040"
  have hrc4 : Cipher.ofName "rc4-+0040" = .ok (.rc4 40) :=
    (hbits _).2 (.rc4Bits ⟨true, 2, 40⟩ (by decide))
  obtain ⟨-, -, -, hheader⟩ := cipher_names_and_vectors "rc4-+0040, 0011223344556677FF"
  refine ⟨hread, hshown _ hread, ⟨.rc4 40, [0, 0x11, 0x22, 0x33, 0x44, 0x55, 0x66, 0x77, 0xFF]⟩,
    (hheader _).2 ⟨"rc4-+0040", " 0011223344556677FF", by decide, by decide, hrc4, by decide,
      by decide, fun algorithm mode h => by cases h⟩, rfl⟩

end Credential.Key.Legacy
