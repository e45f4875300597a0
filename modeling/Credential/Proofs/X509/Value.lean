import Credential.Proofs.Stages
import Credential.Proofs.X509.Element
import Credential.X509.Certificate

/-!
# Values that have one encoding

Most parts of a certificate are accepted in one encoding only, so that the value that was read is
written as the element it was read from (`IsExact`): identifiers, numbers, dates, bit strings,
algorithms and attributes. The parts for which this does not hold are names, extensions and what is
made of them.
-/

namespace Credential.X509

/-- A reader that accepts only what `write` gives. -/
def IsExact {α : Type} (read? : Element → Option α) (write : α → Element) : Prop :=
  ∀ ⦃e a⦄, read? e = some a → write a = e

/-! ## Primitive values -/

theorem ObjectId.isExact : IsExact ObjectId.ofElement? ObjectId.toElement := by
  intro e id h
  unfold ofElement? at h
  split at h
  · next hid =>
      cases h
      obtain ⟨octet, content⟩ := e
      obtain ⟨rfl, -⟩ := hid
      rfl
  · cases h

theorem integer?_eq_some_iff {e : Element} {content : Bytes} :
    integer? e = some content ↔ e = ⟨0x02, content⟩ ∧ isIntegerContent content = true := by
  obtain ⟨octet, found⟩ := e
  unfold integer?
  by_cases hfound : octet = 0x02 ∧ isIntegerContent found = true
  · obtain ⟨rfl, hcontent⟩ := hfound
    rw [if_pos ⟨rfl, hcontent⟩]
    constructor
    · intro h
      cases h
      exact ⟨rfl, hcontent⟩
    · rintro ⟨h, -⟩
      cases h
      rfl
  · rw [if_neg hfound]
    constructor
    · intro h
      cases h
    · rintro ⟨h, hcontent⟩
      cases h
      exact absurd ⟨rfl, hcontent⟩ hfound

theorem serial_isExact : IsExact serial? (⟨0x02, ·⟩) := by
  intro e content h
  obtain ⟨hinteger, -⟩ := Option.filter_eq_some_iff.1 h
  exact (integer?_eq_some_iff.1 hinteger).1.symm

/-- A number below 128 has one content octet, since a zero before it would not be the shortest
form. -/
theorem octetInteger?_of_lt {e : Element} {n : Nat} (h : octetInteger? e = some n) (hn : n < 128) :
    e = ⟨0x02, [UInt8.ofNat n]⟩ := by
  obtain ⟨content, hcontent, hvalue⟩ := Option.bind_eq_some_iff.1 h
  obtain ⟨rfl, hshortest⟩ := integer?_eq_some_iff.1 hcontent
  split at hvalue
  · split at hvalue
    · cases hvalue
      rw [UInt8.ofNat_toNat]
    · cases hvalue
  · next b =>
      cases hvalue
      have hlt : b < 0x80 := UInt8.lt_iff_toNat_lt.2 hn
      simp [isIntegerContent, hlt] at hshortest
  · cases hvalue

theorem Version.isExact : IsExact Version.ofElement? Version.toElement := by
  intro e version h
  obtain ⟨n, hn, h⟩ := Option.bind_eq_some_iff.1 h
  split at h
  · cases h
    exact (octetInteger?_of_lt hn (by decide)).symm
  · cases h
    exact (octetInteger?_of_lt hn (by decide)).symm
  · cases h
    exact (octetInteger?_of_lt hn (by decide)).symm
  · cases h

/-- The BOOLEAN of a value. -/
def booleanElement (b : Bool) : Element := ⟨0x01, [if b then 0xFF else 0x00]⟩

theorem boolean_isExact : IsExact boolean? booleanElement := by
  intro e b h
  obtain ⟨octet, content⟩ := e
  unfold boolean? at h
  split at h
  · cases h
  · next hoctet =>
      obtain rfl : octet = 0x01 := Decidable.of_not_not hoctet
      split at h
      · next hcontent =>
          cases h
          exact congrArg _ hcontent.symm
      · split at h
        · next hcontent =>
            cases h
            exact congrArg _ hcontent.symm
        · cases h

theorem octetString_isExact : IsExact octetString? (⟨0x04, ·⟩) := by
  intro e content h
  obtain ⟨octet, found⟩ := e
  unfold octetString? at h
  split at h
  · next hoctet =>
      cases h
      exact congrArg (Element.mk · found) hoctet.symm
  · cases h

theorem BitString.isExact (octet : UInt8) :
    IsExact (BitString.ofElement? octet) (BitString.toElement octet) := by
  intro e bits h
  obtain ⟨found, content⟩ := e
  unfold ofElement? at h
  split at h
  · next hoctet =>
      obtain rfl : found = octet := hoctet
      dsimp only at h
      unfold ofContent? at h
      split at h
      · cases h
      · split at h
        · cases h
          rfl
        · cases h
  · cases h

/-! ## Dates -/

namespace Time

theorem pair_of_twoDigits? {tens ones : UInt8} {n : Nat} (h : twoDigits? tens ones = some n) :
    pair n = [tens, ones] ∧ n < 100 := by
  unfold twoDigits? at h
  split at h
  · next hdigits =>
      cases h
      simp only [UInt8.le_iff_toNat_le] at hdigits
      obtain ⟨htens, htensLe, hones, honesLe⟩ := hdigits
      have hfirst : 48 ≤ tens.toNat := htens
      have hfirstLe : tens.toNat ≤ 57 := htensLe
      have hsecond : 48 ≤ ones.toNat := hones
      have hsecondLe : ones.toNat ≤ 57 := honesLe
      have htensDigit :
          48 + ((tens.toNat - 48) * 10 + (ones.toNat - 48)) / 10 % 10 = tens.toNat := by
        omega
      have honesDigit : 48 + ((tens.toNat - 48) * 10 + (ones.toNat - 48)) % 10 = ones.toNat := by
        omega
      unfold pair
      rw [htensDigit, honesDigit, UInt8.ofNat_toNat, UInt8.ofNat_toNat]
      exact ⟨rfl, by omega⟩
  · cases h

/-- The numbers that were read write the digits again. -/
theorem content_of_readPairs? {content : Bytes} {numbers : List Nat}
    (h : readPairs? content = some numbers) :
    content = numbers.flatMap pair ++ [90] ∧ ∀ n ∈ numbers, n < 100 := by
  induction content using readPairs?.induct generalizing numbers with
  | case1 =>
      cases h
      exact ⟨rfl, fun n hn => by cases hn⟩
  | case2 tens ones rest ih =>
      rw [readPairs?] at h
      obtain ⟨n, hn, h⟩ := Option.bind_eq_some_iff.1 h
      obtain ⟨others, hothers, h⟩ := Option.bind_eq_some_iff.1 h
      cases h
      obtain ⟨hpair, hlt⟩ := pair_of_twoDigits? hn
      obtain ⟨hrest, hlts⟩ := ih hothers
      refine ⟨?_, List.forall_mem_cons.2 ⟨hlt, hlts⟩⟩
      rw [List.flatMap_cons, hpair, hrest]
      rfl
  | case3 content hend hpair =>
      unfold readPairs? at h
      split at h
      · exact absurd rfl hend
      · exact absurd rfl (hpair _ _ _)
      · cases h

theorem fullYear_mod {n : Nat} (h : n < 100) : fullYear n % 100 = n := by
  unfold fullYear
  split
  · omega
  · omega

theorem moment?_eq_some {year month day hour minute second : Nat} {t : Calendar.DateTime}
    (h : moment? year month day hour minute second = some t) :
    t = ⟨year, month, day, hour, minute, second⟩ := by
  unfold moment? at h
  dsimp only at h
  split at h
  · exact (Option.some.inj h).symm
  · cases h

theorem isExact : IsExact ofElement? toElement := by
  intro e t h
  obtain ⟨octet, content⟩ := e
  unfold ofElement? at h
  dsimp only at h
  split at h
  · next hoctet =>
      subst hoctet
      split at h
      · next year month day hour minute second hpairs =>
          obtain ⟨fields, hfields, rfl⟩ := Option.map_eq_some_iff.1 h
          obtain ⟨hcontent, hlt⟩ := content_of_readPairs? hpairs
          have hyear : fullYear year % 100 = year := fullYear_mod (hlt _ List.mem_cons_self)
          rw [moment?_eq_some hfields, hcontent]
          unfold toElement tailOctets
          dsimp only
          rw [hyear]
          simp
      · cases h
  · split at h
    · next hoctet =>
        subst hoctet
        split at h
        · next century year month day hour minute second hpairs =>
            obtain ⟨fields, hfields, rfl⟩ := Option.map_eq_some_iff.1 h
            obtain ⟨hcontent, hlt⟩ := content_of_readPairs? hpairs
            have hyear : year < 100 := hlt _ (by simp)
            have hhigh : (century * 100 + year) / 100 = century := by omega
            have hlow : (century * 100 + year) % 100 = year := by omega
            rw [moment?_eq_some hfields, hcontent]
            unfold toElement tailOctets
            dsimp only
            rw [hhigh, hlow]
            simp
        · cases h
    · cases h

end Time

/-! ## Sequences of values -/

theorem sequence_of_sequence? {e : Element} {es : List Element} (h : e.sequence? = some es) :
    Element.sequence es = e :=
  (Element.sequence?_eq_some_iff.1 h).1.symm

theorem AlgorithmIdentifier.isExact :
    IsExact AlgorithmIdentifier.ofElement? AlgorithmIdentifier.toElement := by
  intro e id h
  obtain ⟨es, hes, h⟩ := Option.bind_eq_some_iff.1 h
  rw [← sequence_of_sequence? hes]
  split at h
  · obtain ⟨algorithm, halgorithm, h⟩ := Option.bind_eq_some_iff.1 h
    cases h
    unfold toElement
    rw [ObjectId.isExact halgorithm]
    rfl
  · obtain ⟨algorithm, halgorithm, h⟩ := Option.bind_eq_some_iff.1 h
    cases h
    unfold toElement
    rw [ObjectId.isExact halgorithm]
    rfl
  · cases h

theorem Attribute.isExact : IsExact Attribute.ofElement? Attribute.toElement := by
  intro e a h
  obtain ⟨es, hes, h⟩ := Option.bind_eq_some_iff.1 h
  rw [← sequence_of_sequence? hes]
  split at h
  · obtain ⟨type, htype, h⟩ := Option.bind_eq_some_iff.1 h
    cases h
    unfold toElement
    rw [ObjectId.isExact htype]
  · cases h

/-- The validity of two dates. -/
def validityElement (dates : Time × Time) : Element :=
  .sequence [dates.1.toElement, dates.2.toElement]

theorem validity_isExact : IsExact validity? validityElement := by
  intro e dates h
  obtain ⟨es, hes, h⟩ := Option.bind_eq_some_iff.1 h
  rw [← sequence_of_sequence? hes]
  split at h
  · obtain ⟨notBefore, hnotBefore, h⟩ := Option.bind_eq_some_iff.1 h
    obtain ⟨notAfter, hnotAfter, h⟩ := Option.bind_eq_some_iff.1 h
    cases h
    unfold validityElement
    rw [Time.isExact hnotBefore, Time.isExact hnotAfter]
  · cases h

/-- A public key with its algorithm. -/
def publicKeyElement (key : AlgorithmIdentifier × BitString) : Element :=
  .sequence [key.1.toElement, key.2.toElement BitString.octet]

theorem publicKey_isExact : IsExact publicKey? publicKeyElement := by
  intro e key h
  obtain ⟨es, hes, h⟩ := Option.bind_eq_some_iff.1 h
  rw [← sequence_of_sequence? hes]
  split at h
  · obtain ⟨algorithm, halgorithm, h⟩ := Option.bind_eq_some_iff.1 h
    obtain ⟨bits, hbits, h⟩ := Option.bind_eq_some_iff.1 h
    cases h
    unfold publicKeyElement
    rw [AlgorithmIdentifier.isExact halgorithm, BitString.isExact _ hbits]
  · cases h

theorem explicit_isExact (number : UInt8) :
    IsExact (explicitContent? number) (explicit number) := by
  intro e inner h
  obtain ⟨octet, content⟩ := e
  unfold explicitContent? at h
  split at h
  · cases h
  · next hoctet =>
      obtain ⟨es, hes, hinner⟩ := Option.bind_eq_some_iff.1 h
      obtain ⟨hcontent, -⟩ := elements?_eq_some_iff.1 hes
      dsimp only at hcontent
      obtain rfl : octet = explicitOctet number := Decidable.of_not_not hoctet
      split at hinner
      · cases hinner
        unfold explicit
        rw [hcontent, encodeAll_cons, encodeAll_nil, List.append_nil]
      · cases hinner

end Credential.X509
