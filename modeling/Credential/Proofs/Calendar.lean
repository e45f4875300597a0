import Credential.Calendar
import Mathlib.Tactic.IntervalCases

/-!
# Days and dates

`dayNumber` counts the days of the Gregorian calendar: the days of all years before, of all months
before, and of the month so far (`IsDate.dayNumber_eq`). The year and the month of a number are
found again by division, although neither has a fixed number of days
(`IsDate.dateOfNumber_dayNumber`). For a year this takes a correction for every leap day before
(`yearOfCycle_eq`), and for a month the fact that the months from March on have 153 days in every
five.

So the seconds of a moment give back its fields (`DateTime.ofSeconds_seconds`), which come in the
order of the moments when they are compared from the year on (`DateTime.seconds_lt_iff`).
-/

namespace Credential.Calendar

/-! ## Sums of sizes -/

/-- The sum of the first `count` sizes. -/
def total (size : Nat → Nat) (count : Nat) : Nat :=
  ((List.range count).map size).sum

@[simp] theorem total_succ (size : Nat → Nat) (count : Nat) :
    total size (count + 1) = total size count + size count := by
  simp [total, List.range_succ]

/-- What has been counted before an index includes every smaller one with its size. -/
theorem total_add_le (size : Nat → Nat) {i j : Nat} (h : i < j) :
    total size i + size i ≤ total size j := by
  induction j with
  | zero => omega
  | succ j ih =>
      rw [total_succ]
      rcases Nat.lt_succ_iff_lt_or_eq.1 h with hlt | rfl
      · have hle := ih hlt
        omega
      · exact Nat.le_refl _

/-- Places inside of sizes are compared by their index first. -/
theorem total_add_lt_iff {size : Nat → Nat} {i j x y : Nat} (hx : x < size i) (hy : y < size j) :
    total size i + x < total size j + y ↔ i < j ∨ i = j ∧ x < y := by
  rcases Nat.lt_trichotomy i j with hlt | rfl | hgt
  · have hle := total_add_le size hlt
    omega
  · omega
  · have hle := total_add_le size hgt
    omega

/-! ## Dates -/

/-- The number of days of a year. -/
def daysInYear (year : Nat) : Nat :=
  if isLeapYear year then 366 else 365

/-- The number of days of a month, counted from zero. -/
def monthDays (year index : Nat) : Nat :=
  daysInMonth year (index + 1)

/-- The number of days of the months of a year before the given one. -/
def daysBefore (year month : Nat) : Nat :=
  total (monthDays year) (month - 1)

/-- A date of a year after the year 0. -/
structure IsDate (year month day : Nat) : Prop where
  year_pos : 1 ≤ year
  month_pos : 1 ≤ month
  month_le : month ≤ 12
  day_pos : 1 ≤ day
  day_le : day ≤ daysInMonth year month

theorem isLeapYear_iff (year : Nat) :
    isLeapYear year = true ↔ year % 4 = 0 ∧ (year % 100 ≠ 0 ∨ year % 400 = 0) := by
  simp [isLeapYear]

/-! ## Years from March on -/

/-- The year that a month belongs to if years begin in March. -/
def marchYear (year month : Nat) : Nat :=
  if month ≤ 2 then year - 1 else year

/-- The number of a month from March on, which is the month 0. -/
def marchMonth (month : Nat) : Nat :=
  if month ≤ 2 then month + 9 else month - 3

/-- The number of 1 March of a year. -/
def firstOfMarch (year : Nat) : Nat :=
  year / 400 * cycleDays + year % 400 * 365 + year % 400 / 4 - year % 400 / 100

/-- The days from 1 March to a day of a month. -/
def daysFromMarch (month day : Nat) : Nat :=
  (153 * marchMonth month + 2) / 5 + (day - 1)

theorem dayNumber_eq (year month day : Nat) :
    dayNumber year month day = firstOfMarch (marchYear year month) + daysFromMarch month day := by
  unfold dayNumber firstOfMarch daysFromMarch marchYear marchMonth
  dsimp only
  omega

/-- From one March to the next there are the days of the year that the next one is in. -/
theorem firstOfMarch_succ (year : Nat) :
    firstOfMarch (year + 1) = firstOfMarch year + daysInYear (year + 1) := by
  have hleap := isLeapYear_iff (year + 1)
  unfold firstOfMarch daysInYear cycleDays
  split
  · next h =>
      rw [h] at hleap
      simp only [true_iff] at hleap
      omega
  · next h =>
      have hcommon := mt hleap.2 h
      omega

/-! ## Counting days -/

/-- The number of days of February is what is left of a year. -/
theorem daysInMonth_two (year : Nat) : daysInMonth year 2 + 337 = daysInYear year := by
  unfold daysInMonth daysInYear
  split
  · split <;> rfl
  · contradiction

theorem dayNumber_next_year (year : Nat) :
    dayNumber (year + 2) 1 1 = dayNumber (year + 1) 1 1 + daysInYear (year + 1) := by
  have hmarch := firstOfMarch_succ year
  simp only [dayNumber_eq, marchYear, Nat.reduceLeDiff, if_true]
  change firstOfMarch (year + 1) + _ = firstOfMarch year + _ + _
  omega

theorem dayNumber_next_month {year month : Nat} (hpos : 1 ≤ month) (hlt : month < 12) :
    dayNumber (year + 1) (month + 1) 1 =
      dayNumber (year + 1) month 1 + daysInMonth (year + 1) month := by
  by_cases hfebruary : month = 2
  · -- the year from March on changes here
    subst hfebruary
    have hmarch := firstOfMarch_succ year
    have hdays := daysInMonth_two (year + 1)
    change firstOfMarch (year + 1) + 0 = firstOfMarch year + 337 + _
    omega
  · have hyear : marchYear (year + 1) (month + 1) = marchYear (year + 1) month := by
      unfold marchYear
      split <;> split <;> omega
    rw [dayNumber_eq, dayNumber_eq, hyear, Nat.add_assoc]
    refine congrArg _ ?_
    unfold daysInMonth
    rw [if_neg hfebruary]
    unfold daysFromMarch marchMonth
    interval_cases month
    case «2» => exact absurd rfl hfebruary
    all_goals rfl

/-- 1 January of the year 1 is day 306 from 1 March of the year 0, which has 60 days before. -/
theorem dayNumber_january (year : Nat) :
    dayNumber (year + 1) 1 1 + 60 = total daysInYear (year + 1) := by
  induction year with
  | zero => rfl
  | succ year ih =>
      rw [dayNumber_next_year, total_succ, ← ih]
      omega

theorem dayNumber_first (year : Nat) {month : Nat} (h : month < 12) :
    dayNumber (year + 1) (month + 1) 1 =
      dayNumber (year + 1) 1 1 + daysBefore (year + 1) (month + 1) := by
  induction month with
  | zero => rfl
  | succ month ih =>
      have hbefore : daysBefore (year + 1) (month + 2) =
          daysBefore (year + 1) (month + 1) + daysInMonth (year + 1) (month + 1) :=
        total_succ _ _
      rw [dayNumber_next_month (by omega) h, ih (by omega), hbefore, Nat.add_assoc]

/-- The months of a year make up its days. -/
theorem total_monthDays (year : Nat) : total (monthDays year) 12 = daysInYear year := by
  rw [← daysInMonth_two]
  simp [total, List.range_succ, monthDays, daysInMonth]
  omega

namespace IsDate

variable {year month day : Nat}

/-- The number of a date is that of the days before it, less those of January and February of the
year 0. -/
theorem dayNumber_eq (h : IsDate year month day) :
    dayNumber year month day + 60 =
      total daysInYear year + (daysBefore year month + (day - 1)) := by
  obtain ⟨hyear, hpos, hle, -, -⟩ := h
  obtain ⟨y, rfl⟩ : ∃ y, year = y + 1 := ⟨year - 1, by omega⟩
  obtain ⟨m, rfl⟩ : ∃ m, month = m + 1 := ⟨month - 1, by omega⟩
  have hmonth : m < 12 := by omega
  have hfirst := dayNumber_first y hmonth
  have hjanuary := dayNumber_january y
  have hday : dayNumber (y + 1) (m + 1) day = dayNumber (y + 1) (m + 1) 1 + (day - 1) := rfl
  omega

theorem day_lt (h : IsDate year month day) : day - 1 < monthDays year (month - 1) := by
  have hpos := h.day_pos
  have hle := h.day_le
  unfold monthDays
  rw [Nat.sub_add_cancel h.month_pos]
  omega

/-- A date is inside of its year. -/
theorem daysBefore_add_lt (h : IsDate year month day) :
    daysBefore year month + (day - 1) < daysInYear year := by
  have hpos := h.month_pos
  have hmonth := h.month_le
  have hle : total (monthDays year) (month - 1) + monthDays year (month - 1) ≤
      total (monthDays year) 12 := total_add_le _ (by omega)
  have hday := h.day_lt
  rw [total_monthDays] at hle
  unfold daysBefore
  omega

/-- Dates are numbered in the order of their years, months and days. -/
theorem dayNumber_lt_iff {year' month' day' : Nat} (h : IsDate year month day)
    (h' : IsDate year' month' day') :
    dayNumber year month day < dayNumber year' month' day' ↔
      [year, month, day] < [year', month', day'] := by
  have hcount := h.dayNumber_eq
  have hcount' := h'.dayNumber_eq
  have hyears := total_add_lt_iff h.daysBefore_add_lt h'.daysBefore_add_lt
  have hpos := h.month_pos
  have hpos' := h'.month_pos
  have hday := h.day_pos
  have hday' := h'.day_pos
  have hnumbers : dayNumber year month day < dayNumber year' month' day' ↔
      total daysInYear year + (daysBefore year month + (day - 1)) <
        total daysInYear year' + (daysBefore year' month' + (day' - 1)) := by
    omega
  rw [hnumbers, hyears]
  simp only [List.cons_lt_cons_iff, List.lt_irrefl, and_false, or_false]
  refine or_congr_right (and_congr_right ?_)
  rintro rfl
  -- in the same year the months are counted in the same way
  have hmonths := total_add_lt_iff h.day_lt h'.day_lt
  unfold daysBefore
  omega

end IsDate

/-! ## Finding the date again -/

/-- The year of a cycle of 400 years that a day is in, by the centuries, spans of four years and
years before it. The last day is that of a leap year, which the last year of a century is only in
the last one. -/
theorem yearOfCycle_eq {century span last day : Nat} (hcentury : century ≤ 3) (hspan : span ≤ 24)
    (hlast : last ≤ 3) (hday : day ≤ 365)
    (hleap : day = 365 → last = 3 ∧ (span < 24 ∨ century = 3)) :
    let number := 36524 * century + 1461 * span + 365 * last + day
    number < cycleDays ∧
      (number - number / 1460 + number / 36524 - number / 146096) / 365 =
        100 * century + 4 * span + last := by
  intro number
  have hnumber : number = 36524 * century + 1461 * span + 365 * last + day := rfl
  clear_value number
  have hlt : number < 146097 := by omega
  -- the last day of the cycle would count as a century more
  have hcenturies : number / 36524 = century + number / 146096 := by
    by_cases hend : day = 365 ∧ span = 24
    · omega
    · have hshort : 1461 * span + 365 * last + day < 36524 := by omega
      omega
  -- spans of 1460 days leave out the leap days, which add up to a span more at the end of some
  have hspans : number / 1460 =
      25 * century + span + if 1460 ≤ 24 * century + span + 365 * last + day then 1 else 0 := by
    split <;> omega
  refine ⟨hlt, ?_⟩
  split at hspans <;> omega

/-- A number is made up of cycles, and the days of its cycle. -/
theorem cycle_eq {number cycles rest : Nat} (h : number = cycles * cycleDays + rest)
    (hlt : rest < cycleDays) : number / cycleDays = cycles ∧ number % cycleDays = rest := by
  unfold cycleDays at h hlt ⊢
  omega

/-- 1 March by the centuries, spans of four years and years of its cycle that are over. -/
theorem exists_firstOfMarch_eq (year : Nat) : ∃ century span last, century ≤ 3 ∧ span ≤ 24 ∧
    last ≤ 3 ∧ year % 400 = 100 * century + 4 * span + last ∧
      firstOfMarch year =
        year / 400 * cycleDays + (36524 * century + 1461 * span + 365 * last) := by
  refine ⟨year % 400 / 100, year % 100 / 4, year % 4, ?_⟩
  unfold firstOfMarch
  omega

namespace IsDate

variable {year month day : Nat}

/-- The month is found from the days since March. -/
theorem marchMonth_eq (h : IsDate year month day) :
    (5 * daysFromMarch month day + 2) / 153 = marchMonth month := by
  obtain ⟨-, hpos, hle, hday, hdayLe⟩ := h
  unfold daysInMonth at hdayLe
  unfold daysFromMarch marchMonth
  interval_cases month
  case «2» =>
    have hfew : day ≤ 29 := by
      simp only [if_true] at hdayLe
      split at hdayLe <;> omega
    simp only [Nat.reduceLeDiff, if_true]
    omega
  all_goals
    simp at hdayLe ⊢
    omega

/-- A leap day is the last day of a year from March on. -/
theorem daysFromMarch_le (h : IsDate year month day) :
    daysFromMarch month day ≤ 365 ∧
      (daysFromMarch month day = 365 → month = 2 ∧ isLeapYear year = true) := by
  obtain ⟨-, hpos, hle, hday, hdayLe⟩ := h
  unfold daysInMonth at hdayLe
  unfold daysFromMarch marchMonth
  interval_cases month
  case «2» =>
    simp only [if_true] at hdayLe
    split at hdayLe
    · next hleap =>
        simp only [Nat.reduceLeDiff, if_true]
        exact ⟨by omega, fun _ => ⟨trivial, hleap⟩⟩
    · simp only [Nat.reduceLeDiff, if_true]
      omega
  all_goals
    simp at hdayLe ⊢
    omega

/-- The leap day is in the last year of a span, of which there are 24 in a century but for the last
century of a cycle. -/
theorem leap_place (h : IsDate year month day) {century span last : Nat} (hspan : span ≤ 24)
    (hlast : last ≤ 3) (hyear : marchYear year month % 400 = 100 * century + 4 * span + last)
    (hday : daysFromMarch month day = 365) : last = 3 ∧ (span < 24 ∨ century = 3) := by
  obtain ⟨rfl, hleap⟩ := h.daysFromMarch_le.2 hday
  have hplace := (isLeapYear_iff year).1 hleap
  have hpos := h.year_pos
  change (year - 1) % 400 = _ at hyear
  omega

/-- The month from January on is found from the one from March on. -/
theorem marchMonth_back (h : IsDate year month day) :
    (if marchMonth month < 10 then marchMonth month + 3 else marchMonth month - 9) = month := by
  have hpos := h.month_pos
  have hle := h.month_le
  unfold marchMonth
  split <;> split <;> omega

theorem marchYear_back (h : IsDate year month day) :
    (if month ≤ 2 then marchYear year month + 1 else marchYear year month) = year := by
  have hpos := h.year_pos
  unfold marchYear
  split <;> omega

/-- The date is found again from its number. -/
theorem dateOfNumber_dayNumber (h : IsDate year month day) :
    dateOfNumber (dayNumber year month day) = (year, month, day) := by
  obtain ⟨century, span, last, hcentury, hspan, hlast, hyear, hfirst⟩ :=
    exists_firstOfMarch_eq (marchYear year month)
  obtain ⟨hlt, hfound⟩ := yearOfCycle_eq hcentury hspan hlast h.daysFromMarch_le.1
    (h.leap_place hspan hlast hyear)
  have hnumber : dayNumber year month day = marchYear year month / 400 * cycleDays +
      (36524 * century + 1461 * span + 365 * last + daysFromMarch month day) := by
    rw [Calendar.dayNumber_eq, hfirst, Nat.add_assoc]
  obtain ⟨hcycle, hrest⟩ := cycle_eq hnumber hlt
  -- the days before this March are those of the years of the cycle that are over
  have hdays : 36524 * century + 1461 * span + 365 * last + daysFromMarch month day -
      (365 * (100 * century + 4 * span + last) + (100 * century + 4 * span + last) / 4 -
        (100 * century + 4 * span + last) / 100) = daysFromMarch month day := by
    omega
  have hday : daysFromMarch month day - (153 * marchMonth month + 2) / 5 + 1 = day := by
    have hpos := h.day_pos
    unfold daysFromMarch
    omega
  unfold dateOfNumber
  dsimp only
  rw [hrest, hcycle, hfound, hdays, h.marchMonth_eq, ← hyear, Nat.div_add_mod', hday,
    h.marchMonth_back, h.marchYear_back]

end IsDate

/-! ## Moments -/

namespace DateTime

/-- The fields from the year on. -/
def parts (t : DateTime) : List Nat :=
  [t.year, t.month, t.day, t.hour, t.minute, t.second]

/-- The fields as digits of a fixed number, the date and the time of day in UTC. -/
def text (t : DateTime) : String :=
  Text.Decimal.padded 4 t.year ++ "-" ++ Text.Decimal.padded 2 t.month ++ "-" ++
    Text.Decimal.padded 2 t.day ++ "T" ++ Text.Decimal.padded 2 t.hour ++ ":" ++
    Text.Decimal.padded 2 t.minute ++ ":" ++ Text.Decimal.padded 2 t.second ++ "Z"

/-- The number of seconds since midnight. -/
def secondOfDay (t : DateTime) : Nat :=
  t.hour * 3600 + t.minute * 60 + t.second

variable {t u : DateTime}

theorem isValid_iff : t.isValid = true ↔ 1970 ≤ t.year ∧ IsDate t.year t.month t.day ∧
    t.hour ≤ 23 ∧ t.minute ≤ 59 ∧ t.second ≤ 59 := by
  simp only [isValid, Bool.and_eq_true, decide_eq_true_eq]
  constructor
  · rintro ⟨⟨⟨⟨⟨⟨⟨hyear, hpos⟩, hle⟩, hday⟩, hdayLe⟩, hhour⟩, hminute⟩, hsecond⟩
    exact ⟨hyear, ⟨by omega, hpos, hle, hday, hdayLe⟩, hhour, hminute, hsecond⟩
  · rintro ⟨hyear, ⟨-, hpos, hle, hday, hdayLe⟩, hhour, hminute, hsecond⟩
    exact ⟨⟨⟨⟨⟨⟨⟨hyear, hpos⟩, hle⟩, hday⟩, hdayLe⟩, hhour⟩, hminute⟩, hsecond⟩

/-- The start of 1970 is not after any date from 1970 on. -/
theorem epochDay_le (h : t.isValid = true) : epochDay ≤ dayNumber t.year t.month t.day := by
  obtain ⟨hyear, hdate, -⟩ := isValid_iff.1 h
  have hepoch : IsDate 1970 1 1 := by constructor <;> decide
  have hfirst : dayNumber 1970 1 1 = epochDay := rfl
  have horder := hdate.dayNumber_lt_iff hepoch
  simp only [List.cons_lt_cons_iff, List.lt_irrefl, and_false, or_false] at horder
  have hpos := hdate.month_pos
  have hday := hdate.day_pos
  rw [← hfirst]
  omega

theorem secondOfDay_lt (h : t.isValid = true) : t.secondOfDay < 86400 := by
  obtain ⟨-, -, hhour, hminute, hsecond⟩ := isValid_iff.1 h
  unfold secondOfDay
  omega

theorem seconds_eq (t : DateTime) :
    t.seconds = (dayNumber t.year t.month t.day - epochDay) * 86400 + t.secondOfDay := by
  unfold seconds secondOfDay
  omega

/-- The seconds of a moment give back its fields. -/
theorem ofSeconds_seconds (h : t.isValid = true) : ofSeconds t.seconds = t := by
  obtain ⟨-, hdate, hhour, hminute, hsecond⟩ := isValid_iff.1 h
  have hepoch := epochDay_le h
  have hlt := secondOfDay_lt h
  have hnumber : t.seconds / 86400 + epochDay = dayNumber t.year t.month t.day := by
    rw [seconds_eq]
    omega
  have hrest : t.seconds % 86400 = t.secondOfDay := by
    rw [seconds_eq]
    omega
  have htime : t.secondOfDay / 3600 = t.hour ∧ t.secondOfDay / 60 % 60 = t.minute ∧
      t.secondOfDay % 60 = t.second := by
    unfold secondOfDay
    omega
  unfold ofSeconds
  rw [hnumber, hdate.dateOfNumber_dayNumber]
  dsimp only
  rw [hrest, htime.1, htime.2.1, htime.2.2]

/-- Moments come in the order of their fields. -/
theorem seconds_lt_iff (ht : t.isValid = true) (hu : u.isValid = true) :
    t.seconds < u.seconds ↔ t.parts < u.parts := by
  obtain ⟨-, hdate, hhour, hminute, hsecond⟩ := isValid_iff.1 ht
  obtain ⟨-, hdate', hhour', hminute', hsecond'⟩ := isValid_iff.1 hu
  have hepoch := epochDay_le ht
  have hepoch' := epochDay_le hu
  have hlt := secondOfDay_lt ht
  have hlt' := secondOfDay_lt hu
  have hdays := hdate.dayNumber_lt_iff hdate'
  have hdays' := hdate'.dayNumber_lt_iff hdate
  have htime : t.secondOfDay < u.secondOfDay ↔
      [t.hour, t.minute, t.second] < [u.hour, u.minute, u.second] := by
    unfold secondOfDay
    simp only [List.cons_lt_cons_iff, List.lt_irrefl, and_false, or_false]
    omega
  have hseconds : t.seconds < u.seconds ↔
      dayNumber t.year t.month t.day < dayNumber u.year u.month u.day ∨
        dayNumber t.year t.month t.day = dayNumber u.year u.month u.day ∧
          t.secondOfDay < u.secondOfDay := by
    rw [seconds_eq, seconds_eq]
    omega
  rw [hseconds, htime]
  unfold parts
  simp only [List.cons_lt_cons_iff, List.lt_irrefl, and_false, or_false] at hdays hdays' ⊢
  omega

end DateTime

/-- The text of a moment shows its fields. -/
theorem Timestamp.interchange_seconds {t : DateTime} (h : t.isValid = true) :
    interchange ⟨t.seconds, 0⟩ = t.text := by
  unfold interchange
  dsimp only
  rw [DateTime.ofSeconds_seconds h]
  simp [dateText, timeText, fraction, DateTime.text, String.append_assoc]

end Credential.Calendar
