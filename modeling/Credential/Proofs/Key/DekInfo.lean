import Credential.Key.Legacy.DekInfo
import Credential.Proofs.Key.FaultKind
import Credential.Proofs.Text.Blank
import Credential.Proofs.Text.Hex

/-!
# What the header of an encrypted block names

`DekInfo.ofText` gives ciphers that a name can write and vectors that fit them
(`DekInfo.named_and_fits_of_ofText`). A vector fits if it has exactly one block where the mode takes
one, and otherwise at least the octets of the salt (`checkVector_eq_ok_iff`). The other way round,
a name, a comma and the digits of a vector that fits are read as that cipher and vector
(`DekInfo.ofText_append`), since no name has a comma in it (`comma_not_mem_of_ofName`).
-/

namespace Credential.Key.Legacy

namespace Cipher

/-- A cipher that a name can write: RC4 comes with keys of 40, 64 and 128 bits. -/
def IsNamed : Cipher → Prop
  | .block _ _ => True
  | .rc4 keyBits => keyBits = 40 ∨ keyBits = 64 ∨ keyBits = 128

/-- A vector that a cipher can be used with. -/
def VectorFits : Cipher → Bytes → Prop
  | .block _ .ecb, vector => 8 ≤ vector.length
  | .block algorithm _, vector => vector.length = algorithm.blockSize
  | .rc4 _, vector => 8 ≤ vector.length

theorem isNamed_of_rc4Bits? {part : List Char} {keyBits : Nat}
    (h : rc4Bits? part = some keyBits) : (Cipher.rc4 keyBits).IsNamed := by
  obtain ⟨-, hbits⟩ := Option.filter_eq_some_iff.1 h
  unfold IsNamed
  simpa [or_assoc] using hbits

theorem isNamed_of_ofParts? {parts : List String} {cipher : Cipher}
    (h : ofParts? parts = some cipher) : cipher.IsNamed := by
  unfold ofParts? at h
  split at h
  · cases h
    exact Or.inr (Or.inr rfl)
  · obtain ⟨keyBits, hbits, rfl⟩ := Option.map_eq_some_iff.1 h
    exact isNamed_of_rc4Bits? hbits
  · split at h
    · obtain ⟨mode, -, rfl⟩ := Option.map_eq_some_iff.1 h
      trivial
    · cases h

theorem ofParts?_of_ofName {name : String} {cipher : Cipher} (h : ofName name = .ok cipher) :
    ofParts? (nameParts name) = some cipher := by
  unfold ofName at h
  split at h
  · next hparts =>
      cases h
      exact hparts
  · cases h

theorem isNamed_of_ofName {name : String} {cipher : Cipher} (h : ofName name = .ok cipher) :
    cipher.IsNamed :=
  isNamed_of_ofParts? (ofParts?_of_ofName h)

/-- A key of RC4 has one of its three lengths. -/
theorem keyLength_of_isNamed {keyBits : Nat} (h : (Cipher.rc4 keyBits).IsNamed) :
    (Cipher.rc4 keyBits).keyLength = 5 ∨ (Cipher.rc4 keyBits).keyLength = 8 ∨
      (Cipher.rc4 keyBits).keyLength = 16 := by
  unfold keyLength
  rcases h with rfl | rfl | rfl
  · exact Or.inl rfl
  · exact Or.inr (Or.inl rfl)
  · exact Or.inr (Or.inr rfl)

/-! ## Names -/

/-- A character that the parts of a name are made of. -/
def isNameChar (c : Char) : Bool :=
  c.isAlphanum || c == '+'

/-- A part of a name: letters, digits and plus signs. -/
def IsNamePart (part : String) : Prop :=
  part.toList.all isNameChar = true

instance (part : String) : Decidable (IsNamePart part) :=
  inferInstanceAs (Decidable (_ = _))

theorem isNamePart_of_rc4Bits? {bits : String} {keyBits : Nat}
    (h : rc4Bits? bits.toList = some keyBits) : IsNamePart bits := by
  obtain ⟨hbelow, -⟩ := Option.filter_eq_some_iff.1 h
  unfold Text.Decimal.readBelow? at hbelow
  split at hbelow
  · next n hdigits =>
      unfold Text.Decimal.readDigits? at hdigits
      split at hdigits
      · next hall =>
          apply List.all_eq_true.2
          intro c hc
          -- the number may have a plus sign in front, and nothing else but digits
          have hplus : c = '+' ∨ c ∈ Text.Decimal.dropPlus bits.toList := by
            unfold Text.Decimal.dropPlus
            split
            · next rest hbits =>
                rw [hbits] at hc
                exact List.mem_cons.1 hc
            · exact Or.inr hc
          rcases hplus with rfl | hdigit
          · rfl
          · have hd : c.isDigit = true := List.all_eq_true.1 hall.2 c hdigit
            unfold isNameChar Char.isAlphanum
            rw [hd, Bool.or_true, Bool.true_or]
      · cases hdigits
  · cases hbelow

theorem isNamePart_of_mode? {parts : List String} {mode : Credential.Cipher.Mode}
    (h : mode? parts = some mode) : ∀ part ∈ parts, IsNamePart part := by
  unfold mode? at h
  split at h
  · decide
  · decide
  · decide
  · decide
  · decide
  · cases h

/-- The parts that name an algorithm, and those after it. -/
theorem isNamePart_of_algorithm? {parts rest : List String}
    {algorithm : Credential.Cipher.Algorithm} (h : algorithm? parts = some (algorithm, rest))
    (hrest : ∀ part ∈ rest, IsNamePart part) : ∀ part ∈ parts, IsNamePart part := by
  have hone {first : String} (hfirst : IsNamePart first) :
      ∀ part ∈ first :: rest, IsNamePart part :=
    List.forall_mem_cons.2 ⟨hfirst, hrest⟩
  have htwo {first second : String} (hfirst : IsNamePart first) (hsecond : IsNamePart second) :
      ∀ part ∈ first :: second :: rest, IsNamePart part :=
    List.forall_mem_cons.2 ⟨hfirst, hone hsecond⟩
  unfold algorithm? at h
  split at h
  · cases h
    exact htwo (by decide) (by decide)
  · cases h
    exact htwo (by decide) (by decide)
  · cases h
    exact htwo (by decide) (by decide)
  · cases h
    exact hone (by decide)
  · cases h
    exact htwo (by decide) (by decide)
  · cases h
    exact htwo (by decide) (by decide)
  · cases h
    exact hone (by decide)
  · cases h
    exact hone (by decide)
  · cases h
    exact hone (by decide)
  · cases h

theorem isNamePart_of_ofParts? {parts : List String} {cipher : Cipher}
    (h : ofParts? parts = some cipher) : ∀ part ∈ parts, IsNamePart part := by
  unfold ofParts? at h
  split at h
  · decide
  · next bits =>
      obtain ⟨keyBits, hbits, -⟩ := Option.map_eq_some_iff.1 h
      intro part hpart
      rcases List.mem_cons.1 hpart with rfl | hpart
      · decide
      · rw [List.mem_singleton.1 hpart]
        exact isNamePart_of_rc4Bits? hbits
  · split at h
    · next algorithm rest halgorithm =>
        obtain ⟨mode, hmode, -⟩ := Option.map_eq_some_iff.1 h
        exact isNamePart_of_algorithm? halgorithm (isNamePart_of_mode? hmode)
    · cases h

/-- The comma that ends a name in a header is not part of it. -/
theorem comma_not_mem_of_ofName {name : String} {cipher : Cipher}
    (h : ofName name = .ok cipher) : ',' ∉ name.toList := by
  intro hcomma
  have hupper : ',' ∈ (Text.trim name.toList).map Char.toUpper :=
    List.mem_map.2 ⟨',', Text.mem_trim (by decide) hcomma, rfl⟩
  have hmark : ',' ≠ '-' := by decide
  obtain ⟨part, hpart, hmem⟩ := Text.exists_mem_splitOn hmark hupper
  have hnamePart : IsNamePart (String.ofList part) :=
    isNamePart_of_ofParts? (ofParts?_of_ofName h) _ (List.mem_map_of_mem hpart)
  unfold IsNamePart at hnamePart
  rw [String.toList_ofList] at hnamePart
  exact absurd (List.all_eq_true.1 hnamePart _ hmem) (by decide)

/-- Blanks before a name do not count. -/
theorem ofName_trimStart {name : String} {cipher : Cipher} (h : ofName name = .ok cipher) :
    ofName (String.ofList (Text.trimStart name.toList)) = .ok cipher := by
  have hparts : nameParts (String.ofList (Text.trimStart name.toList)) = nameParts name := by
    unfold nameParts
    rw [String.toList_ofList, Text.trim_trimStart]
  unfold ofName
  rw [hparts, ofParts?_of_ofName h]

/-- A name is not blank. -/
theorem trimStart_ne_nil_of_ofName {name : String} {cipher : Cipher}
    (h : ofName name = .ok cipher) : Text.trimStart name.toList ≠ [] := by
  intro hnil
  have hparts := ofParts?_of_ofName h
  unfold nameParts at hparts
  rw [Text.trim_eq, hnil] at hparts
  cases hparts

/-! ## Vectors -/

/-- A vector fits if it holds the salt of the key derivation and has the length that the cipher asks
for, if it asks for one. -/
theorem vectorFits_iff (cipher : Cipher) (vector : Bytes) :
    cipher.VectorFits vector ↔ saltLength ≤ vector.length ∧
      ∀ size, cipher.vectorLength? = some size → vector.length = size := by
  -- a block is never shorter than the salt
  have hblock (algorithm : Credential.Cipher.Algorithm) :
      vector.length = algorithm.blockSize → 8 ≤ vector.length := by
    have hle : 8 ≤ algorithm.blockSize := by cases algorithm <;> decide
    omega
  cases cipher with
  | rc4 keyBits => simp [VectorFits, vectorLength?, saltLength]
  | block algorithm mode =>
      cases mode with
      | ecb => simp [VectorFits, vectorLength?, saltLength, Credential.Cipher.Mode.usesVector]
      | cbc =>
          simpa [VectorFits, vectorLength?, saltLength, Credential.Cipher.Mode.usesVector]
            using hblock algorithm
      | cfb =>
          simpa [VectorFits, vectorLength?, saltLength, Credential.Cipher.Mode.usesVector]
            using hblock algorithm
      | ofb =>
          simpa [VectorFits, vectorLength?, saltLength, Credential.Cipher.Mode.usesVector]
            using hblock algorithm

/-- A vector that fits is one block where the mode takes one. -/
theorem VectorFits.length_eq {algorithm : Credential.Cipher.Algorithm}
    {mode : Credential.Cipher.Mode} {vector : Bytes}
    (h : (Cipher.block algorithm mode).VectorFits vector) (hu : mode.usesVector = true) :
    vector.length = algorithm.blockSize :=
  ((vectorFits_iff _ _).1 h).2 _ (if_pos hu)

end Cipher

namespace DekInfo

theorem checkVector_eq_ok_iff (cipher : Cipher) (vector : Bytes) :
    checkVector cipher vector = .ok () ↔ cipher.VectorFits vector := by
  rw [Cipher.vectorFits_iff]
  unfold checkVector
  by_cases hsalt : vector.length < saltLength
  · rw [if_pos hsalt]
    constructor
    · intro h
      cases h
    · rintro ⟨hle, -⟩
      exact absurd hsalt (Nat.not_lt.2 hle)
  · rw [if_neg hsalt]
    have hle : saltLength ≤ vector.length := Nat.le_of_not_lt hsalt
    cases cipher.vectorLength? with
    | none => simp [hle]
    | some expected =>
        by_cases he : vector.length = expected
        · simp [he, he ▸ hle]
        · simp [he]

/-- What a header names is a cipher with a name and a vector that fits it. -/
theorem named_and_fits_of_ofText {s : String} {info : DekInfo} (h : ofText s = .ok info) :
    info.cipher.IsNamed ∧ info.cipher.VectorFits info.vector := by
  unfold ofText at h
  split at h
  · cases h
  · obtain ⟨cipher, hname, h⟩ := bind_eq_ok_iff.1 h
    obtain ⟨vector, -, h⟩ := bind_eq_ok_iff.1 h
    obtain ⟨_, hcheck, h⟩ := bind_eq_ok_iff.1 h
    cases h
    exact ⟨Cipher.isNamed_of_ofName hname, (checkVector_eq_ok_iff _ _).1 hcheck⟩

/-- A name, a comma and the digits of a vector that fits, as a header is read. -/
theorem ofText_append {name digits : String} {cipher : Cipher} {vector : Bytes}
    (hname : Cipher.ofName name = .ok cipher) (hvector : cipher.VectorFits vector)
    (hdigits : digits.toList.map Char.toLower = (Text.Hex.encode vector).toList) :
    ofText (String.ofList (Text.trim (name ++ "," ++ digits).toList)) =
      .ok ⟨cipher, vector⟩ := by
  have hstart := Cipher.trimStart_ne_nil_of_ofName hname
  have hcomma : ',' ∉ Text.trimStart name.toList :=
    fun h => Cipher.comma_not_mem_of_ofName hname ((List.dropWhile_suffix _).mem h)
  have hblank : ∀ c ∈ digits.toList, Text.isBlank c = false := by
    rw [Text.Hex.toList_encode] at hdigits
    exact fun c hc => (Text.Hex.char_of_lower hdigits c hc).1
  have htrim : Text.trim (name ++ "," ++ digits).toList =
      Text.trimStart name.toList ++ ',' :: Text.trimEnd digits.toList := by
    have hlist : (name ++ "," ++ digits).toList = name.toList ++ ',' :: digits.toList := by
      have hmark : (",").toList = [','] := rfl
      rw [String.toList_append, String.toList_append, hmark, List.append_assoc]
      rfl
    rw [hlist, Text.trim_eq, Text.trimStart_append hstart]
    exact Text.trimEnd_append_cons (by decide) _ _
  have hsplit : Text.splitAt? ',' (String.ofList
      (Text.trim (name ++ "," ++ digits).toList)).toList =
        some (Text.trimStart name.toList, Text.trimEnd digits.toList) := by
    rw [String.toList_ofList, htrim]
    exact Text.splitAt?_append hcomma _
  have hhex : Text.Hex.decode (String.ofList (Text.trim (Text.trimEnd digits.toList))) =
      .ok vector := by
    rw [Text.trim_trimEnd, Text.trim_of_forall hblank, String.ofList_toList]
    exact Text.Hex.decode_of_lower hdigits
  have hcheck := (checkVector_eq_ok_iff cipher vector).2 hvector
  -- the text is cut at its first comma, which is the one after the name
  unfold ofText
  rw [hsplit]
  dsimp only
  rw [Cipher.ofName_trimStart hname, hhex]
  dsimp only [bind, Except.bind, Except.mapError]
  rw [hcheck]
  rfl

end DekInfo

end Credential.Key.Legacy
