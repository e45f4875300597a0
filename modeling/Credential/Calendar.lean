import Credential.Text.Decimal

/-!
# Calendar

Dates of the proleptic Gregorian calendar as days since 1 January 1970, and moments as
seconds since the start of that day, and back. Both conversions count years from 1 March,
so that a leap day is the last day of its year; a span of 400 years always has 146097 days,
and 1 January 1970 is day 719468 of the count from 1 March of year 0.

`DateTime.seconds` and `DateTime.ofSeconds` are inverse to each other on the valid dates
from 1970 on. `Timestamp.interchange` and `Timestamp.plain` are the texts of a moment.
-/

namespace Credential.Calendar

/-- A date with a time of day, in UTC. -/
structure DateTime where
  year : Nat
  month : Nat
  day : Nat
  hour : Nat
  minute : Nat
  second : Nat
  deriving DecidableEq, Repr

/-- Whether a year has a leap day. -/
def isLeapYear (year : Nat) : Bool :=
  year % 4 == 0 && (year % 100 != 0 || year % 400 == 0)

/-- The number of days of a month. -/
def daysInMonth (year month : Nat) : Nat :=
  if month = 2 then if isLeapYear year then 29 else 28
  else if month = 4 ∨ month = 6 ∨ month = 9 ∨ month = 11 then 30
  else 31

/-- The number of days of 400 years. -/
def cycleDays : Nat := 146097

/-- The number of 1 January 1970 in the count from 1 March of year 0. -/
def epochDay : Nat := 719468

/-- The number of a date in the count from 1 March of year 0. -/
def dayNumber (year month day : Nat) : Nat :=
  let marchYear := if month ≤ 2 then year - 1 else year
  let marchMonth := if month ≤ 2 then month + 9 else month - 3
  let yearOfCycle := marchYear % 400
  marchYear / 400 * cycleDays + yearOfCycle * 365 + yearOfCycle / 4 - yearOfCycle / 100
    + (153 * marchMonth + 2) / 5 + (day - 1)

/-- The year, month and day with the given number in the count from 1 March of year 0. -/
def dateOfNumber (number : Nat) : Nat × Nat × Nat :=
  let dayOfCycle := number % cycleDays
  let yearOfCycle :=
    (dayOfCycle - dayOfCycle / 1460 + dayOfCycle / 36524 - dayOfCycle / 146096) / 365
  let dayOfYear := dayOfCycle - (365 * yearOfCycle + yearOfCycle / 4 - yearOfCycle / 100)
  let marchMonth := (5 * dayOfYear + 2) / 153
  let day := dayOfYear - (153 * marchMonth + 2) / 5 + 1
  let month := if marchMonth < 10 then marchMonth + 3 else marchMonth - 9
  let marchYear := number / cycleDays * 400 + yearOfCycle
  (if month ≤ 2 then marchYear + 1 else marchYear, month, day)

namespace DateTime

/-- Whether the fields name a moment from 1970 on, without leap seconds. -/
def isValid (t : DateTime) : Bool :=
  1970 ≤ t.year && 1 ≤ t.month && t.month ≤ 12 && 1 ≤ t.day &&
    t.day ≤ daysInMonth t.year t.month && t.hour ≤ 23 && t.minute ≤ 59 && t.second ≤ 59

/-- The number of seconds from the start of 1970 to a moment. -/
def seconds (t : DateTime) : Nat :=
  (dayNumber t.year t.month t.day - epochDay) * 86400 + t.hour * 3600 + t.minute * 60 + t.second

/-- The moment the given number of seconds after the start of 1970. -/
def ofSeconds (n : Nat) : DateTime :=
  let (year, month, day) := dateOfNumber (n / 86400 + epochDay)
  let rest := n % 86400
  ⟨year, month, day, rest / 3600, rest / 60 % 60, rest % 60⟩

end DateTime

/-- A moment as seconds and nanoseconds since the start of 1970. -/
structure Timestamp where
  seconds : Nat
  nanoseconds : Nat := 0
  deriving DecidableEq, Repr

namespace Timestamp

/-- The fraction of a second in three, six or nine digits, the fewest that write it; no
fraction is the empty text. -/
def fraction (nanoseconds : Nat) : String :=
  if nanoseconds = 0 then ""
  else if nanoseconds % 1000000 = 0 then "." ++ Text.Decimal.padded 3 (nanoseconds / 1000000)
  else if nanoseconds % 1000 = 0 then "." ++ Text.Decimal.padded 6 (nanoseconds / 1000)
  else "." ++ Text.Decimal.padded 9 nanoseconds

/-- The date of a moment, as in `2030-01-31`. -/
def dateText (t : DateTime) : String :=
  Text.Decimal.padded 4 t.year ++ "-" ++ Text.Decimal.padded 2 t.month ++ "-"
    ++ Text.Decimal.padded 2 t.day

/-- The time of day, as in `13:31:28.500`. -/
def timeText (t : DateTime) (nanoseconds : Nat) : String :=
  Text.Decimal.padded 2 t.hour ++ ":" ++ Text.Decimal.padded 2 t.minute ++ ":"
    ++ Text.Decimal.padded 2 t.second ++ fraction nanoseconds

/-- The text for other programs, as in `2030-01-31T13:31:28.500Z`. -/
def interchange (t : Timestamp) : String :=
  let fields := DateTime.ofSeconds t.seconds
  dateText fields ++ "T" ++ timeText fields t.nanoseconds ++ "Z"

/-- The text for readers, as in `2030-01-31 13:31:28.500 UTC`. -/
def plain (t : Timestamp) : String :=
  let fields := DateTime.ofSeconds t.seconds
  dateText fields ++ " " ++ timeText fields t.nanoseconds ++ " UTC"

end Timestamp

end Credential.Calendar
