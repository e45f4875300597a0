import Credential.Proofs.Calendar
import Credential.Proofs.X509.Dates

/-!
# Dates as they are encoded

The fields of a date stand at fixed places of its octets (`encodedFields`), and its two elements at
fixed places of a certificate (`dateElements?`). Nothing of this goes through the reader of dates,
which takes a date apart two digits at a time, or through the seconds since 1970 that a summary
keeps.

The summary of an accepted certificate always exists and shows these fields. Moments come in the
order in which their fields are encoded, whether they are written with two or with four digits for
the year.
-/

namespace Credential.X509

open Calendar (DateTime Timestamp)

/-! ## Digits at their places -/

/-- The number that is written by a run of ASCII digits after another number. -/
def decimalFrom (n : Nat) (digits : Bytes) : Nat :=
  digits.foldl (fun value b => 10 * value + (b.toNat - 48)) n

/-- The number that the given count of ASCII digits write from a place on. -/
def digitsAt (content : Bytes) (place count : Nat) : Nat :=
  decimalFrom 0 ((content.drop place).take count)

/-- Whether an octet is an ASCII digit. -/
def IsDigit (b : UInt8) : Prop :=
  48 ≤ b.toNat ∧ b.toNat ≤ 57

namespace Time

/-- An octet of a digit gives it back. -/
theorem toNat_digit {d : Nat} (h : d < 10) : (UInt8.ofNat (48 + d)).toNat = 48 + d := by
  rw [UInt8.toNat_ofNat']
  omega

theorem isDigit_of_mem_pair {n : Nat} {b : UInt8} (h : b ∈ pair n) : IsDigit b := by
  unfold pair at h
  have hdigit : ∃ d < 10, b = UInt8.ofNat (48 + d) := by
    rcases List.mem_cons.1 h with rfl | h
    · exact ⟨n / 10 % 10, by omega, rfl⟩
    · exact ⟨n % 10, by omega, List.mem_singleton.1 h⟩
  obtain ⟨d, hlt, rfl⟩ := hdigit
  unfold IsDigit
  rw [toNat_digit hlt]
  omega

theorem decimalFrom_pair {n : Nat} (value : Nat) (h : n < 100) :
    decimalFrom value (pair n) = 100 * value + n := by
  have htens := toNat_digit (d := n / 10 % 10) (by omega)
  have hones := toNat_digit (d := n % 10) (by omega)
  unfold decimalFrom pair
  simp only [List.foldl_cons, List.foldl_nil, htens, hones]
  omega

/-- A number that is written among others, two digits each, is found at its place. -/
theorem digitsAt_pair {numbers : List Nat} {i n : Nat} (h : numbers[i]? = some n) (hn : n < 100)
    (tail : Bytes) : digitsAt (numbers.flatMap pair ++ tail) (2 * i) 2 = n := by
  induction i generalizing numbers with
  | zero =>
      cases numbers with
      | nil => cases h
      | cons first others =>
          cases h
          exact (decimalFrom_pair 0 hn).trans (Nat.zero_add n)
  | succ i ih =>
      cases numbers with
      | nil => cases h
      -- the place is two octets further, and so is the number
      | cons first others => exact ih h

/-- Two numbers side by side are one of four digits. -/
theorem digitsAt_four {high low : Nat} (hhigh : high < 100) (hlow : low < 100) (others : List Nat)
    (tail : Bytes) :
    digitsAt ((high :: low :: others).flatMap pair ++ tail) 0 4 = high * 100 + low := by
  have hfirst := decimalFrom_pair 0 hhigh
  have hsecond := decimalFrom_pair high hlow
  rw [Nat.mul_zero, Nat.zero_add] at hfirst
  calc
    digitsAt ((high :: low :: others).flatMap pair ++ tail) 0 4
        = decimalFrom (decimalFrom 0 (pair high)) (pair low) := rfl
    _ = high * 100 + low := by rw [hfirst, hsecond, Nat.mul_comm]

end Time

/-! ## The octets of a date -/

/-- The fields of a date with the given year, with the month at a place and the others after it. -/
def fieldsFrom (year : Nat) (content : Bytes) (place : Nat) : DateTime :=
  ⟨year, digitsAt content place 2, digitsAt content (place + 2) 2, digitsAt content (place + 4) 2,
    digitsAt content (place + 6) 2, digitsAt content (place + 8) 2⟩

/-- The fields of a date at their places, after two digits for the year in a UTCTime and after four
in a GeneralizedTime. Two digits from 00 to 49 stand for years from 2000 on. -/
def encodedFields (e : Element) : DateTime :=
  if e.octet = Time.utcOctet then
    let year := digitsAt e.content 0 2
    fieldsFrom (if year < 50 then 2000 + year else 1900 + year) e.content 2
  else fieldsFrom (digitsAt e.content 0 4) e.content 4

/-- A UTCTime or a GeneralizedTime with digits up to the second and a `Z`, and nothing else. Two
digits for the year are none of those from 50 to 69. -/
structure IsEncodedDate (e : Element) : Prop where
  form : e.octet = Time.utcOctet ∧ e.content.length = 13 ∨
    e.octet = Time.generalizedOctet ∧ e.content.length = 15
  year : e.octet = Time.utcOctet → digitsAt e.content 0 2 < 50 ∨ 70 ≤ digitsAt e.content 0 2
  digits : ∀ b ∈ e.content.dropLast, IsDigit b
  zulu : e.content.getLast? = some 90

namespace Time

/-- The five fields after the year are found after the numbers that write the year. -/
theorem fieldsFrom_flatMap_pair (front : List Nat) {month day hour minute second : Nat} (year : Nat)
    (h : ∀ n ∈ [month, day, hour, minute, second], n < 100) :
    fieldsFrom year ((front ++ [month, day, hour, minute, second]).flatMap pair ++ [90])
      (2 * front.length) = ⟨year, month, day, hour, minute, second⟩ := by
  have hat {i n : Nat} (hn : [month, day, hour, minute, second][i]? = some n) :
      digitsAt ((front ++ [month, day, hour, minute, second]).flatMap pair ++ [90])
        (2 * (front.length + i)) 2 = n := by
    apply digitsAt_pair
    · -- the numbers in front are passed over
      rw [List.getElem?_append_right (Nat.le_add_right _ _), Nat.add_sub_cancel_left]
      exact hn
    · exact h n (List.mem_of_getElem? hn)
  have hmonth := hat (i := 0) rfl
  have hday := hat (i := 1) rfl
  have hhour := hat (i := 2) rfl
  have hminute := hat (i := 3) rfl
  have hsecond := hat (i := 4) rfl
  unfold fieldsFrom
  rw [DateTime.mk.injEq]
  exact ⟨rfl, hmonth, hday, hhour, hminute, hsecond⟩

/-- Two digits for the year and the five other fields. -/
theorem encodedFields_utc {year month day hour minute second : Nat}
    (h : ∀ n ∈ [year, month, day, hour, minute, second], n < 100) :
    let content := [year, month, day, hour, minute, second].flatMap pair ++ [90]
    digitsAt content 0 2 = year ∧
      encodedFields ⟨utcOctet, content⟩ = ⟨fullYear year, month, day, hour, minute, second⟩ := by
  intro content
  obtain ⟨hyear, hothers⟩ := List.forall_mem_cons.1 h
  have hat : digitsAt content 0 2 = year := digitsAt_pair (i := 0) rfl hyear [90]
  refine ⟨hat, ?_⟩
  unfold encodedFields
  dsimp only
  rw [if_pos rfl, hat]
  exact fieldsFrom_flatMap_pair [year] (fullYear year) hothers

/-- Four digits for the year, which are those of the century and of the year in it. -/
theorem encodedFields_generalized {century year month day hour minute second : Nat}
    (h : ∀ n ∈ [century, year, month, day, hour, minute, second], n < 100) :
    encodedFields ⟨generalizedOctet,
        [century, year, month, day, hour, minute, second].flatMap pair ++ [90]⟩ =
      ⟨century * 100 + year, month, day, hour, minute, second⟩ := by
  obtain ⟨hcentury, h⟩ := List.forall_mem_cons.1 h
  obtain ⟨hyear, hothers⟩ := List.forall_mem_cons.1 h
  have hother : generalizedOctet ≠ utcOctet := by decide
  unfold encodedFields
  dsimp only
  rw [if_neg hother, digitsAt_four hcentury hyear]
  exact fieldsFrom_flatMap_pair [century, year] (century * 100 + year) hothers

theorem isDigit_of_mem_dropLast (numbers : List Nat) :
    ∀ b ∈ (numbers.flatMap pair ++ [90]).dropLast, IsDigit b := by
  rw [List.dropLast_concat]
  intro b hb
  obtain ⟨n, -, hn⟩ := List.mem_flatMap.1 hb
  exact isDigit_of_mem_pair hn

/-- A date is read as the fields at their places, which are checked before. -/
theorem encodedFields_of_ofElement? {e : Element} {t : Time} (h : ofElement? e = some t) :
    IsEncodedDate e ∧ encodedFields e = t.fields := by
  have hvalid := (isDated_of_ofElement? h).valid
  obtain ⟨octet, content⟩ := e
  unfold ofElement? at h
  dsimp only at h
  split at h
  · next hoctet =>
      subst hoctet
      split at h
      · next year month day hour minute second hpairs =>
          obtain ⟨fields, hfields, rfl⟩ := Option.map_eq_some_iff.1 h
          obtain ⟨rfl, hlt⟩ := content_of_readPairs? hpairs
          obtain ⟨hyear, hencoded⟩ := encodedFields_utc hlt
          rw [moment?_eq_some hfields] at hvalid ⊢
          -- two digits from 50 to 69 would be years before 1970
          have hsince : 1970 ≤ fullYear year := (DateTime.isValid_iff.1 hvalid).1
          refine ⟨⟨Or.inl ⟨rfl, rfl⟩, fun _ => ?_, isDigit_of_mem_dropLast _, ?_⟩, hencoded⟩
          · unfold fullYear at hsince
            dsimp only
            rw [hyear]
            split at hsince <;> omega
          · exact List.getLast?_concat
      · cases h
  · split at h
    · next hoctet =>
        subst hoctet
        split at h
        · next century year month day hour minute second hpairs =>
            obtain ⟨fields, hfields, rfl⟩ := Option.map_eq_some_iff.1 h
            obtain ⟨rfl, hlt⟩ := content_of_readPairs? hpairs
            rw [moment?_eq_some hfields]
            refine ⟨⟨Or.inr ⟨rfl, rfl⟩, ?_, isDigit_of_mem_dropLast _, ?_⟩,
              encodedFields_generalized hlt⟩
            · intro hutc
              cases hutc
            · exact List.getLast?_concat
        · cases h
    · cases h

end Time

/-! ## The dates of a certificate -/

/-- The elements of the two dates, by their places: the fourth field that is signed after the
version is the validity, and the dates are its elements. -/
def dateElements? (der : Bytes) : Option (Element × Element) := do
  let (certificate, _) ← Element.read? der
  let tbs ← (← certificate.sequence?).head?
  let fields := (takeTagged 0 (← tbs.sequence?)).2
  match ← (← fields[3]?).sequence? with
  | [notBefore, notAfter] => return (notBefore, notAfter)
  | _ => none

/-- The dates that are kept with a certificate are read from the elements at their places. -/
theorem Certificate.exists_dateElements {der : Bytes} {c : Certificate}
    (h : ofBytes? der = some c) :
    ∃ before after, dateElements? der = some (before, after) ∧
      Time.ofElement? before = some c.signed.tbs.notBefore ∧
      Time.ofElement? after = some c.signed.tbs.notAfter := by
  obtain ⟨certificate, hsigned, hread⟩ := exists_read?_of_ofBytes? h
  obtain ⟨parts, tbs, hparts, hfirst, htbs⟩ := SignedCertificate.exists_tbs_of_ofElement? hsigned
  obtain ⟨es, validity, hes, hplace, hvalidity⟩ := TbsCertificate.exists_validity_of_ofElement? htbs
  obtain ⟨before, after, hdates, hbefore, hafter⟩ := exists_elements_of_validity? hvalidity
  have hwhole := hread []
  rw [List.append_nil] at hwhole
  refine ⟨before, after, ?_, hbefore, hafter⟩
  simp [dateElements?, hwhole, hparts, hfirst, hes, hplace, hdates]

/-- A moment that the summary of an accepted certificate shows, and the element that encodes it
there. -/
inductive IsShown : Element → Timestamp → Prop where
  | notBefore {der : Bytes} {c : Certificate} {before after : Element}
      (accepted : Certificate.ofBytes? der = some c)
      (places : dateElements? der = some (before, after)) : IsShown before c.summary.notBefore
  | notAfter {der : Bytes} {c : Certificate} {before after : Element}
      (accepted : Certificate.ofBytes? der = some c)
      (places : dateElements? der = some (before, after)) : IsShown after c.summary.notAfter

namespace IsShown

variable {e f : Element} {shown other : Timestamp}

/-- What is shown is the moment of the date that is read from the element. -/
theorem exists_time (h : IsShown e shown) :
    ∃ t : Time, Time.ofElement? e = some t ∧ shown = t.timestamp := by
  cases h with
  | notBefore accepted places =>
      obtain ⟨before, after, hplaces, hbefore, -⟩ := Certificate.exists_dateElements accepted
      obtain ⟨rfl, -⟩ := Prod.mk.inj (Option.some.inj (places.symm.trans hplaces))
      exact ⟨_, hbefore, rfl⟩
  | notAfter accepted places =>
      obtain ⟨before, after, hplaces, -, hafter⟩ := Certificate.exists_dateElements accepted
      obtain ⟨-, rfl⟩ := Prod.mk.inj (Option.some.inj (places.symm.trans hplaces))
      exact ⟨_, hafter, rfl⟩

/-- A moment that is shown has the encoded fields, which are a valid date of at most four digits for
the year. -/
theorem facts (h : IsShown e shown) :
    IsEncodedDate e ∧ (encodedFields e).isValid = true ∧ (encodedFields e).year ≤ 9999 ∧
      shown = ⟨(encodedFields e).seconds, 0⟩ := by
  obtain ⟨t, ht, rfl⟩ := h.exists_time
  obtain ⟨hform, hfields⟩ := Time.encodedFields_of_ofElement? ht
  have hdated := Time.isDated_of_ofElement? ht
  rw [hfields]
  exact ⟨hform, hdated.valid, hdated.year_le, rfl⟩

theorem interchange_eq (h : IsShown e shown) : shown.interchange = (encodedFields e).text := by
  obtain ⟨-, hvalid, -, rfl⟩ := h.facts
  exact Timestamp.interchange_seconds hvalid

/-- Moments that are shown come in the order of the encoded fields. -/
theorem lt_iff (he : IsShown e shown) (hf : IsShown f other) :
    [shown.seconds, shown.nanoseconds] < [other.seconds, other.nanoseconds] ↔
      (encodedFields e).parts < (encodedFields f).parts := by
  obtain ⟨-, hvalid, -, rfl⟩ := he.facts
  obtain ⟨-, hvalid', -, rfl⟩ := hf.facts
  rw [← DateTime.seconds_lt_iff hvalid hvalid']
  simp [List.cons_lt_cons_iff]

end IsShown

/-- The summary of every accepted certificate exists, with its two dates at their places. The text
of a date has the encoded fields, and one date is before another if its encoded fields are. -/
theorem dates_survive_conversion :
    (∀ der c, Certificate.ofBytes? der = some c →
      c.checkedSummary? = some c.summary ∧
        ∃ before after, dateElements? der = some (before, after) ∧
          IsShown before c.summary.notBefore ∧ IsShown after c.summary.notAfter) ∧
    (∀ e shown, IsShown e shown →
      IsEncodedDate e ∧ (encodedFields e).isValid = true ∧ (encodedFields e).year ≤ 9999 ∧
        shown.interchange = (encodedFields e).text) ∧
    ∀ e f shown other, IsShown e shown → IsShown f other →
      ([shown.seconds, shown.nanoseconds] < [other.seconds, other.nanoseconds] ↔
        (encodedFields e).parts < (encodedFields f).parts) := by
  refine ⟨fun der c h => ?_, fun e shown h => ?_, fun e f shown other he hf => he.lt_iff hf⟩
  · obtain ⟨before, after, hplaces, -, -⟩ := Certificate.exists_dateElements h
    exact ⟨Certificate.checkedSummary?_eq (Certificate.isDated_of_ofBytes? h), before, after,
      hplaces, .notBefore h hplaces, .notAfter h hplaces⟩
  · obtain ⟨hform, hvalid, hyear, -⟩ := h.facts
    exact ⟨hform, hvalid, hyear, h.interchange_eq⟩

/-- A certificate with empty names and the given dates. -/
def datedCertificate (notBefore notAfter : Time) : Bytes :=
  let rsa : AlgorithmIdentifier :=
    ⟨⟨[0x2A, 0x86, 0x48, 0x86, 0xF7, 0x0D, 0x01, 0x01, 0x0B]⟩, some ⟨0x05, []⟩⟩
  let tbs : TbsCertificate := {
    version := .v1
    serial := [0x01]
    signature := rsa
    issuer := []
    notBefore
    notAfter
    subject := []
    keyAlgorithm := rsa
    key := ⟨0, []⟩
    issuerId := none
    subjectId := none
    extensions := none }
  (SignedCertificate.toElement ⟨tbs, rsa, ⟨0, []⟩⟩).encode

/-- A UTCTime at the end of a leap day, and a GeneralizedTime at the end of the year 9999. -/
theorem dates_survive_conversion_leap_day :
    let first := Time.utc ⟨1996, 2, 29, 23, 59, 59⟩
    let last := Time.generalized ⟨9999, 12, 31, 23, 59, 59⟩
    ∃ c, Certificate.ofBytes? (datedCertificate first last) = some c ∧
      dateElements? (datedCertificate first last) = some (first.toElement, last.toElement) ∧
      c.checkedSummary? = some c.summary ∧
      IsEncodedDate first.toElement ∧ IsEncodedDate last.toElement ∧
      c.summary.notBefore.interchange = "1996-02-29T23:59:59Z" ∧
      c.summary.notAfter.interchange = "9999-12-31T23:59:59Z" ∧
      [c.summary.notBefore.seconds, c.summary.notBefore.nanoseconds] <
        [c.summary.notAfter.seconds, c.summary.notAfter.nanoseconds] := by
  intro first last
  have haccepted : (Certificate.ofBytes? (datedCertificate first last)).isSome = true := by
    decide +kernel
  have hfound : dateElements? (datedCertificate first last) =
      some (first.toElement, last.toElement) := by
    decide +kernel
  obtain ⟨c, hc⟩ := Option.isSome_iff_exists.1 haccepted
  obtain ⟨hsummary, hshows, horders⟩ := dates_survive_conversion
  obtain ⟨hchecked, before, after, hplaces, hbefore, hafter⟩ := hsummary _ c hc
  obtain ⟨rfl, rfl⟩ := Prod.mk.inj (Option.some.inj (hfound.symm.trans hplaces))
  obtain ⟨hfirst, -, -, hfirstText⟩ := hshows _ _ hbefore
  obtain ⟨hlast, -, -, hlastText⟩ := hshows _ _ hafter
  refine ⟨c, hc, hplaces, hchecked, hfirst, hlast, ?_, ?_, ?_⟩
  · rw [hfirstText]
    decide +kernel
  · rw [hlastText]
    decide +kernel
  · rw [horders _ _ _ _ hbefore hafter]
    decide +kernel

end Credential.X509
