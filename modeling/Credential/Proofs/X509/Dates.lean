import Credential.Proofs.X509.ChainForms

/-!
# Dates of certificates

The dates of an accepted certificate are moments between 1970 and the end of the year 9999
(`Certificate.isDated_of_ofBytes?`), since a date has at most four digits for its year. The calendar
of a host reaches further, so converting a date never fails, and neither does the summary of a
certificate with its conversions (`Certificate.checkedSummary?_eq`).
-/

namespace Credential.X509

open Calendar (DateTime Timestamp)

/-! ## One date -/

/-- A date with fields that are a moment of a year up to 9999. -/
structure Time.IsDated (t : Time) : Prop where
  valid : t.fields.isValid = true
  year_le : t.fields.year ≤ 9999

namespace Time

theorem isValid_of_moment? {year month day hour minute second : Nat} {t : DateTime}
    (h : moment? year month day hour minute second = some t) : t.isValid = true := by
  unfold moment? at h
  dsimp only at h
  split at h
  · next hvalid =>
      cases h
      exact hvalid
  · cases h

/-- A date that is accepted has at most four digits for its year. -/
theorem isDated_of_ofElement? {e : Element} {t : Time} (h : ofElement? e = some t) :
    t.IsDated := by
  unfold ofElement? at h
  split at h
  · split at h
    · next year month day hour minute second hpairs =>
        obtain ⟨fields, hfields, rfl⟩ := Option.map_eq_some_iff.1 h
        have hyear : year < 100 := (content_of_readPairs? hpairs).2 _ List.mem_cons_self
        refine ⟨isValid_of_moment? hfields, ?_⟩
        rw [moment?_eq_some hfields]
        dsimp only [Time.fields]
        unfold fullYear
        split <;> omega
    · cases h
  · split at h
    · split at h
      · next century year month day hour minute second hpairs =>
          obtain ⟨fields, hfields, rfl⟩ := Option.map_eq_some_iff.1 h
          have hlt := (content_of_readPairs? hpairs).2
          have hcentury : century < 100 := hlt _ List.mem_cons_self
          have hyear : year < 100 := hlt _ (List.mem_cons_of_mem _ List.mem_cons_self)
          refine ⟨isValid_of_moment? hfields, ?_⟩
          rw [moment?_eq_some hfields]
          dsimp only [Time.fields]
          omega
      · cases h
    · cases h

end Time

/-! ## Conversion -/

/-- The last second of the year 262142, up to which the calendar of a host reaches. -/
def lastSecond : Nat := 8210266876799

/-- The moment as a date of the host, if its calendar reaches that far. -/
def converted? (t : Timestamp) : Option Timestamp :=
  if t.seconds ≤ lastSecond then some t else none

theorem daysInMonth_le (year month : Nat) : Calendar.daysInMonth year month ≤ 31 := by
  unfold Calendar.daysInMonth
  split
  · split <;> decide
  · split <;> decide

/-- A moment of a year with four digits is far below the last second. -/
theorem seconds_le_lastSecond {t : DateTime} (hvalid : t.isValid = true) (hyear : t.year ≤ 9999) :
    t.seconds ≤ lastSecond := by
  have hmonth := daysInMonth_le t.year t.month
  simp only [DateTime.isValid, Bool.and_eq_true, decide_eq_true_eq] at hvalid
  obtain ⟨⟨⟨⟨⟨⟨⟨hfirst, hmonthPos⟩, hmonthLe⟩, hdayPos⟩, hday⟩, hhour⟩, hminute⟩, hsecond⟩ := hvalid
  -- ten thousand years have at most 3660000 days
  have hnumber : Calendar.dayNumber t.year t.month t.day ≤ 3660000 := by
    unfold Calendar.dayNumber Calendar.cycleDays
    dsimp only
    split <;> omega
  unfold DateTime.seconds Calendar.epochDay lastSecond
  omega

theorem Time.IsDated.converted? {t : Time} (h : t.IsDated) :
    X509.converted? t.timestamp = some t.timestamp :=
  if_pos (seconds_le_lastSecond h.valid h.year_le)

/-! ## Certificates -/

/-- A certificate with two dates of a year up to 9999. -/
structure SignedCertificate.IsDated (c : SignedCertificate) : Prop where
  notBefore : c.tbs.notBefore.IsDated
  notAfter : c.tbs.notAfter.IsDated

/-- The two dates are the elements of the validity. -/
theorem exists_elements_of_validity? {e : Element} {dates : Time × Time}
    (h : validity? e = some dates) :
    ∃ before after, e.sequence? = some [before, after] ∧
      Time.ofElement? before = some dates.1 ∧ Time.ofElement? after = some dates.2 := by
  obtain ⟨es, hes, h⟩ := Option.bind_eq_some_iff.1 h
  split at h
  · next before after =>
      obtain ⟨notBefore, hnotBefore, h⟩ := Option.bind_eq_some_iff.1 h
      obtain ⟨notAfter, hnotAfter, h⟩ := Option.bind_eq_some_iff.1 h
      cases h
      exact ⟨before, after, hes, hnotBefore, hnotAfter⟩
  · cases h

/-- The validity is the fourth field after the version. -/
theorem TbsCertificate.exists_validity_of_ofElement? {e : Element} {tbs : TbsCertificate}
    (h : ofElement? e = some tbs) :
    ∃ es validity, e.sequence? = some es ∧ (takeTagged 0 es).2[3]? = some validity ∧
      validity? validity = some (tbs.notBefore, tbs.notAfter) := by
  obtain ⟨es, hes, h⟩ := Option.bind_eq_some_iff.1 h
  obtain ⟨⟨written, fields⟩, htagged⟩ : ∃ found, takeTagged 0 es = found := ⟨_, rfl⟩
  rw [htagged] at h
  obtain ⟨version, -, h⟩ := Option.bind_eq_some_iff.1 h
  obtain ⟨-, _, _, _, validity, _, _, _, _, _, _, rfl, hfields, -⟩ := ofFields?_eq_some_iff.1 h
  refine ⟨es, validity, hes, ?_, hfields.validity_eq⟩
  rw [htagged]
  rfl

/-- What is signed is the first part of a certificate. -/
theorem SignedCertificate.exists_tbs_of_ofElement? {e : Element} {c : SignedCertificate}
    (h : ofElement? e = some c) :
    ∃ parts tbs, e.sequence? = some parts ∧ parts.head? = some tbs ∧
      TbsCertificate.ofElement? tbs = some c.tbs := by
  obtain ⟨parts, hparts, h⟩ := Option.bind_eq_some_iff.1 h
  split at h
  · obtain ⟨tbs, htbs, h⟩ := Option.bind_eq_some_iff.1 h
    obtain ⟨algorithm, -, h⟩ := Option.bind_eq_some_iff.1 h
    obtain ⟨signature, -, h⟩ := Option.bind_eq_some_iff.1 h
    cases h
    exact ⟨_, _, hparts, rfl, htbs⟩
  · cases h

/-- The dates of a certificate are those of the validity in what is signed. -/
theorem SignedCertificate.isDated_of_ofElement? {e : Element} {c : SignedCertificate}
    (h : ofElement? e = some c) : c.IsDated := by
  obtain ⟨_, _, -, -, htbs⟩ := exists_tbs_of_ofElement? h
  obtain ⟨_, _, -, -, hvalidity⟩ := TbsCertificate.exists_validity_of_ofElement? htbs
  obtain ⟨_, _, -, hnotBefore, hnotAfter⟩ := exists_elements_of_validity? hvalidity
  exact ⟨Time.isDated_of_ofElement? hnotBefore, Time.isDated_of_ofElement? hnotAfter⟩

theorem Certificate.isDated_of_ofBytes? {der : Bytes} {c : Certificate}
    (h : ofBytes? der = some c) : c.signed.IsDated := by
  obtain ⟨_, hsigned, -⟩ := exists_read?_of_ofBytes? h
  exact SignedCertificate.isDated_of_ofElement? hsigned

/-- The summary of a certificate whose dates are converted to dates of the host. -/
def Certificate.checkedSummary? (c : Certificate) : Option Summary := do
  let notBefore ← converted? c.notBefore
  let notAfter ← converted? c.notAfter
  return { c.summary with notBefore, notAfter }

theorem Certificate.checkedSummary?_eq {c : Certificate} (h : c.signed.IsDated) :
    c.checkedSummary? = some c.summary := by
  unfold checkedSummary? notBefore notAfter
  rw [h.notBefore.converted?, h.notAfter.converted?]
  rfl

end Credential.X509
