import Credential.Proofs.Key.Sealed

/-!
# Looking at a key file and decoding it

What `Info.ofFile` shows of a key file agrees with what `Specification.ofFile` makes of it
(`inspection_agrees`). A file that decodes shows its algorithm, unless it is an encrypted PKCS#8
key. A file that shows no encryption decodes, or fails to, without regard to the password and the
options, and it fails only for an algorithm that is not known. A file that shows an encryption does
not decode without a password, and a file that asks for a password shows an encryption.

Both readers search for the same container (`Container.lean`), so everything here is said of one
container, with one case for each structure.
-/

namespace Credential.Key

/-- Only an algorithm that is not known is refused. -/
theorem Algorithm.eq_of_ofOid_error {oid : Der.ObjectIdentifier} {e : Error}
    (h : Algorithm.ofOid oid = .error e) : e = .unsupportedAlgorithm oid.text := by
  unfold Algorithm.ofOid at h
  split at h
  · cases h
  · split at h
    · cases h
    · cases h
      rfl

theorem Specification.ofPkcs1_eq_ok_iff {data : Bytes} {specification : Specification} :
    ofPkcs1 data = .ok specification ↔
      ∃ params, RsaParameters.decode data = .ok params ∧ .rsa params = specification :=
  map_eq_ok_iff

/-- A supported scheme is shown by its name. -/
theorem Info.schemeName_of_scheme {info : EncryptedPrivateKeyInfo} {scheme : Pbe.Scheme}
    (h : info.scheme = .ok scheme) : schemeName info = .ok scheme.name := by
  unfold schemeName
  rw [h]

/-! ## What each structure shows -/

/-- What octets in a wrapping show, as a relation: one rule a structure. -/
inductive Shows (format : Format) (label : Option String) (data : Bytes) : Wrapping → Info → Prop
  | pkcs1 {params : RsaParameters} : RsaParameters.decode data = .ok params →
      Shows format label data .pkcs1 ⟨format, label, .pkcs1, some .rsa, none⟩
  | legacy {headers : Pem.Headers} {dekInfo : Legacy.DekInfo} :
      Legacy.dekInfoOf headers = .ok dekInfo →
      Shows format label data (.legacy headers)
        ⟨format, label, .legacyEncryptedPkcs1, some .rsa, some dekInfo.cipher.name⟩
  | pkcs8 {decoded : PrivateKeyInfo} : PrivateKeyInfo.decode data = .ok decoded →
      Shows format label data .pkcs8
        ⟨format, label, .pkcs8, decoded.keyAlgorithm.toOption, none⟩
  | encryptedPkcs8 {decoded : EncryptedPrivateKeyInfo} {name : String} :
      EncryptedPrivateKeyInfo.decode data = .ok decoded → Info.schemeName decoded = .ok name →
      Shows format label data .encryptedPkcs8 ⟨format, label, .encryptedPkcs8, none, some name⟩

namespace Container

variable {container : Container} {password : Option Bytes} {options : Options} {info : Info}
  {specification : Specification}

/-- The function and the relation agree. -/
theorem info_eq_ok_iff : container.info = .ok info ↔
    Shows container.format container.label container.data container.wrapping info := by
  unfold Container.info
  constructor
  · intro h
    cases hw : container.wrapping with
    | pkcs1 =>
        rw [hw] at h
        obtain ⟨params, hd, hi⟩ := bind_eq_ok_iff.1 h
        cases hi
        exact .pkcs1 hd
    | legacy headers =>
        rw [hw] at h
        obtain ⟨dekInfo, hd, hi⟩ := bind_eq_ok_iff.1 h
        cases hi
        exact .legacy hd
    | pkcs8 =>
        rw [hw] at h
        obtain ⟨decoded, hd, hi⟩ := bind_eq_ok_iff.1 h
        cases hi
        exact .pkcs8 hd
    | encryptedPkcs8 =>
        rw [hw] at h
        obtain ⟨decoded, hd, h⟩ := bind_eq_ok_iff.1 h
        obtain ⟨name, hn, hi⟩ := bind_eq_ok_iff.1 h
        cases hi
        exact .encryptedPkcs8 hd hn
  · intro h
    generalize container.wrapping = wrapping at h
    cases h with
    | pkcs1 hd => exact bind_eq_ok_iff.2 ⟨_, hd, rfl⟩
    | legacy hd => exact bind_eq_ok_iff.2 ⟨_, hd, rfl⟩
    | pkcs8 hd => exact bind_eq_ok_iff.2 ⟨_, hd, rfl⟩
    | encryptedPkcs8 hd hn => exact bind_eq_ok_iff.2 ⟨_, hd, bind_eq_ok_iff.2 ⟨_, hn, rfl⟩⟩

/-- A container is shown as the structure that it is. -/
theorem structure_of_info (h : container.info = .ok info) :
    info.structure_ = container.wrapping.structure_ := by
  have hs := info_eq_ok_iff.1 h
  generalize container.wrapping = wrapping at hs
  cases hs <;> rfl

/-! ## A container that decodes or asks for a password -/

/-- A container whose ciphertext is found shows its encryption, whatever the policy: the algorithm
of an RSA key if it is a block with headers, and the scheme if it is one of a scheme. -/
theorem info_of_sealed {policy : Policy} {ciphertext : Sealed}
    (h : Contents.ofContainer container policy = .ok (.sealed ciphertext)) :
    ∃ info, container.info = .ok info ∧ info.isEncrypted = true ∧
      ((∃ dekInfo data, ciphertext = .legacy dekInfo data ∧
          info.structure_ = .legacyEncryptedPkcs1 ∧ info.algorithm = some .rsa) ∨
        ∃ scheme params data, ciphertext = .pbe scheme params data ∧
          info.structure_ = .encryptedPkcs8 ∧ info.algorithm = none ∧
          info.encryption = some scheme.name) := by
  simp only [info_eq_ok_iff]
  rcases (Contents.ofContainer_eq_sealed_iff _ _ _).1 h with ⟨headers, hw, hl⟩ | ⟨hw, hl⟩
  · obtain ⟨-, dekInfo, hd, -, hc⟩ := (Sealed.ofLegacy_eq_ok_iff _ _ _ _).1 hl
    rw [hw]
    exact ⟨_, .legacy hd, rfl, Or.inl ⟨dekInfo, container.data, hc, rfl, rfl⟩⟩
  · obtain ⟨decoded, scheme, params, hd, hs, -, -, hc⟩ :=
      (Sealed.ofEncryptedPkcs8_eq_ok_iff _ _ _).1 hl
    rw [hw]
    exact ⟨_, .encryptedPkcs8 hd (Info.schemeName_of_scheme hs), rfl,
      Or.inr ⟨scheme, params, _, hc, rfl, rfl, rfl⟩⟩

/-- A key in the clear shows its algorithm and no encryption. -/
theorem info_of_clear {policy : Policy}
    (h : Contents.ofContainer container policy = .ok (.clear specification)) :
    ∃ info, container.info = .ok info ∧ info.isEncrypted = false ∧
      info.structure_ ≠ .encryptedPkcs8 ∧ info.algorithm = specification.algorithm? := by
  simp only [info_eq_ok_iff]
  rcases (Contents.ofContainer_eq_clear_iff _ _ _).1 h with ⟨hw, hr⟩ | ⟨hw, hr⟩
  · obtain ⟨params, hd, rfl⟩ := Specification.ofPkcs1_eq_ok_iff.1 hr
    rw [hw]
    exact ⟨_, .pkcs1 hd, rfl, by simp, rfl⟩
  · obtain ⟨decoded, hd, hr⟩ := bind_eq_ok_iff.1 hr
    obtain ⟨algorithm, ha, hr⟩ := bind_eq_ok_iff.1 hr
    cases hr
    rw [hw]
    exact ⟨_, .pkcs8 hd, rfl, by simp, rfl⟩

/-- A container that decodes shows its algorithm, unless it is an encrypted PKCS#8 key. -/
theorem info_of_specification (h : container.specification password options = .ok specification) :
    ∃ info, container.info = .ok info ∧ info.algorithm =
      if info.structure_ = .encryptedPkcs8 then none else specification.algorithm? := by
  rw [Container.specification_eq] at h
  obtain ⟨contents, hc, hs⟩ := bind_eq_ok_iff.1 h
  -- a ciphertext decodes only with a password
  cases contents with
  | clear clear =>
      cases hs
      obtain ⟨info, hi, -, hne, ha⟩ := info_of_clear hc
      exact ⟨info, hi, by rw [if_neg hne, ha]⟩
  | sealed ciphertext =>
      cases password with
      | none => cases hs
      | some password =>
          obtain ⟨plain, -, hread⟩ := Sealed.read_of_unlock hs
          obtain ⟨info, hi, -, ⟨dekInfo, data, rfl, hst, ha⟩ | ⟨_, _, _, -, hst, ha, -⟩⟩ :=
            info_of_sealed hc
          · refine ⟨info, hi, ?_⟩
            -- the plaintext of a block with headers is an RSA key
            obtain ⟨params, -, rfl⟩ := Specification.ofPkcs1_eq_ok_iff.1 hread
            rw [hst, ha]
            rfl
          · exact ⟨info, hi, by rw [if_pos hst, ha]⟩

/-! ## A container that shows no encryption -/

/-- What a container in the clear decodes to, for every password and under all options. -/
theorem specification_of_clear (h : container.info = .ok info) (hc : info.isEncrypted = false) :
    (∃ specification, info.algorithm.isSome ∧
      ∀ password options, container.specification password options = .ok specification) ∨
    (∃ name, info.algorithm = none ∧ ∀ password options,
      container.specification password options = .error (.unsupportedAlgorithm name)) := by
  have hs := info_eq_ok_iff.1 h
  unfold Container.specification
  generalize container.wrapping = wrapping at hs
  cases hs with
  | @pkcs1 params hd =>
      refine Or.inl ⟨.rsa params, rfl, fun _ _ => ?_⟩
      dsimp only
      unfold Specification.ofPkcs1
      rw [hd]
      rfl
  | legacy hd => cases hc
  | @pkcs8 decoded hd =>
      dsimp only
      have hspec : Specification.ofPkcs8 container.data =
          decoded.keyAlgorithm >>= fun _ =>
            .ok (.pkcs8 decoded.algorithm.algorithm container.data) := by
        unfold Specification.ofPkcs8
        rw [hd]
        rfl
      cases ha : decoded.keyAlgorithm with
      | error e =>
          have he : e = .unsupportedAlgorithm decoded.algorithm.algorithm.text :=
            Algorithm.eq_of_ofOid_error ha
          refine Or.inr ⟨decoded.algorithm.algorithm.text, rfl, fun _ _ => ?_⟩
          rw [hspec, ha, he]
          rfl
      | ok algorithm =>
          refine Or.inl ⟨.pkcs8 decoded.algorithm.algorithm container.data, rfl, fun _ _ => ?_⟩
          rw [hspec, ha]
          rfl
  | encryptedPkcs8 hd hn => cases hc

/-! ## A container that shows an encryption -/

/-- Without a password, what decodes is in the clear. -/
theorem not_isEncrypted_of_specification (h : container.info = .ok info)
    (hs : container.specification none options = .ok specification) :
    info.isEncrypted = false := by
  rw [Container.specification_eq] at hs
  obtain ⟨contents, hc, hs⟩ := bind_eq_ok_iff.1 hs
  cases contents with
  | clear clear =>
      obtain ⟨info', hi, he, -⟩ := info_of_clear hc
      rw [h] at hi
      cases hi
      exact he
  | sealed ciphertext => cases hs

/-- What asks for a password shows an encryption. -/
theorem info_of_noPasswordProvided
    (h : container.specification none options = .error .noPasswordProvided) :
    ∃ info, container.info = .ok info ∧ info.isEncrypted = true := by
  rw [Container.specification_eq] at h
  cases hc : Contents.ofContainer container options.policy with
  | error e =>
      rw [hc] at h
      cases h
      -- no fault of the first step is a missing password
      have hk := Contents.faultsIn_ofContainer container options.policy _ hc
      simp [Error.kind, Kind.ofSealed] at hk
  | ok contents =>
      rw [hc] at h
      cases contents with
      | clear clear => cases h
      | sealed ciphertext =>
          obtain ⟨info, hi, he, -⟩ := info_of_sealed hc
          exact ⟨info, hi, he⟩

end Container

/-! ## Files -/

/-- A key that decodes is in a container that shows what it is. -/
theorem PrivateKey.exists_info_of_ofFile {bytes : Bytes} {password : Option Bytes}
    {options : Options} {key : PrivateKey} (h : ofFile bytes password options = .ok key) :
    ∃ container info, Container.ofFile bytes = .ok container ∧ container.info = .ok info ∧
      Info.ofFile bytes = .ok info := by
  cases hspec : Specification.ofFile bytes password options with
  | error cause =>
      unfold ofFile at h
      rw [hspec] at h
      cases h
  | ok specification =>
      rw [Specification.ofFile_eq] at hspec
      obtain ⟨container, hfile, hdecodes⟩ := bind_eq_ok_iff.1 hspec
      obtain ⟨info, hinfo, -⟩ := Container.info_of_specification hdecodes
      refine ⟨container, info, hfile, hinfo, ?_⟩
      rw [Info.ofFile_eq]
      exact bind_eq_ok_iff.2 ⟨container, hfile, hinfo⟩

/-- A key that decodes and shows no encryption decodes to the same with any password. -/
theorem PrivateKey.ofFile_of_not_isEncrypted {bytes : Bytes} {password : Option Bytes}
    {options : Options} {key : PrivateKey} (h : ofFile bytes password options = .ok key)
    (hclear : ∀ info, Info.ofFile bytes = .ok info → info.isEncrypted = false)
    (other : Option Bytes) : ofFile bytes other options = .ok key := by
  obtain ⟨container, info, hfile, hinfo, hshown⟩ := exists_info_of_ofFile h
  -- the specification is the same with every password, and so is the key
  have hsame : container.specification other options =
      container.specification password options := by
    rcases Container.specification_of_clear hinfo (hclear info hshown) with
      ⟨clear, -, hall⟩ | ⟨name, -, hall⟩ <;> rw [hall, hall]
  have hspecs : Specification.ofFile bytes other options =
      Specification.ofFile bytes password options := by
    rw [Specification.ofFile_eq, Specification.ofFile_eq, hfile]
    exact hsame
  unfold ofFile at h ⊢
  rw [hspecs]
  exact h

/-- What a key file shows without a password agrees with what it decodes to, for every password and
under all options. -/
theorem inspection_agrees (bytes : Bytes) (password : Option Bytes) (options : Options) :
    (∀ specification, Specification.ofFile bytes password options = .ok specification →
      ∃ info, Info.ofFile bytes = .ok info ∧ info.algorithm =
        if info.structure_ = .encryptedPkcs8 then none else specification.algorithm?) ∧
    (∀ info, Info.ofFile bytes = .ok info → info.isEncrypted = false →
      (∀ password' options', Specification.ofFile bytes password' options' =
        Specification.ofFile bytes password options) ∧
      ((∃ specification, Specification.ofFile bytes password options = .ok specification) ↔
        info.algorithm.isSome) ∧
      (info.algorithm = none → ∃ name,
        Specification.ofFile bytes password options = .error (.unsupportedAlgorithm name))) ∧
    (∀ info, Info.ofFile bytes = .ok info → info.isEncrypted = true →
      ∃ cause, Specification.ofFile bytes none options = .error cause) ∧
    (Specification.ofFile bytes none options = .error .noPasswordProvided →
      ∃ info, Info.ofFile bytes = .ok info ∧ info.isEncrypted = true) := by
  simp only [Specification.ofFile_eq, Info.ofFile_eq]
  cases hf : Container.ofFile bytes with
  | error cause =>
      -- both readers report that there is no container
      refine ⟨?_, ?_, ?_, ?_⟩
      · intro specification h
        cases h
      · intro info h
        cases h
      · intro info h
        cases h
      · intro h
        cases h
        have hk := Container.faultsIn_ofFile bytes _ hf
        simp [Error.kind, Kind.ofClear] at hk
  | ok container =>
      dsimp only [Except.bind]
      refine ⟨?_, ?_, ?_, ?_⟩
      -- what decodes is shown
      · intro specification h
        exact Container.info_of_specification h
      -- what shows no encryption decodes the same for everybody
      · intro info h hc
        rcases Container.specification_of_clear h hc with ⟨specification, ha, hs⟩ | ⟨name, ha, hs⟩
        · simp [hs, ha, Option.isSome_iff_ne_none.1 ha]
        · simp [hs, ha]
      -- what shows an encryption needs a password
      · intro info h he
        cases hs : container.specification none options with
        | error cause => exact ⟨cause, rfl⟩
        | ok specification =>
            rw [Container.not_isEncrypted_of_specification h hs] at he
            cases he
      -- what needs a password shows an encryption
      · intro h
        exact Container.info_of_noPasswordProvided h

end Credential.Key
