import Credential.Calendar
import Credential.X509.Element

/-!
# Dates in certificates

A date is a UTCTime `YYMMDDHHMMSSZ`, whose two-digit year stands for 1950 to 2049, or a
GeneralizedTime `YYYYMMDDHHMMSSZ`. Both are read only if their fields are a valid moment from
1970 on, so writing a date gives back the text that was read.
-/

namespace Credential.X509

open Calendar (DateTime Timestamp)

/-- A date of a certificate, in one of its two forms. -/
inductive Time where
  | utc (fields : DateTime)
  | generalized (fields : DateTime)
  deriving DecidableEq, Repr

namespace Time

/-- The number that two ASCII digits write. -/
def twoDigits? (tens ones : UInt8) : Option Nat :=
  if 48 ≤ tens ∧ tens ≤ 57 ∧ 48 ≤ ones ∧ ones ≤ 57 then
    some ((tens.toNat - 48) * 10 + (ones.toNat - 48))
  else none

/-- The numbers that pairs of ASCII digits write, before an ASCII `Z` at the end. -/
def readPairs? : Bytes → Option (List Nat)
  | [90] => some []
  | tens :: ones :: rest => do
    let n ← twoDigits? tens ones
    let others ← readPairs? rest
    return n :: others
  | _ => none

/-- The moment with the given fields, if it is valid. -/
def moment? (year month day hour minute second : Nat) : Option DateTime :=
  let t : DateTime := ⟨year, month, day, hour, minute, second⟩
  if t.isValid then some t else none

/-- The year that two digits stand for. -/
def fullYear (n : Nat) : Nat :=
  if n < 50 then 2000 + n else 1900 + n

/-- The identifier octet of a UTCTime. -/
def utcOctet : UInt8 := 0x17

/-- The identifier octet of a GeneralizedTime. -/
def generalizedOctet : UInt8 := 0x18

/-- Reads a date. -/
def ofElement? (e : Element) : Option Time :=
  if e.octet = utcOctet then
    match readPairs? e.content with
    | some [year, month, day, hour, minute, second] =>
      (moment? (fullYear year) month day hour minute second).map .utc
    | _ => none
  else if e.octet = generalizedOctet then
    match readPairs? e.content with
    | some [century, year, month, day, hour, minute, second] =>
      (moment? (century * 100 + year) month day hour minute second).map .generalized
    | _ => none
  else none

/-- Two ASCII digits. -/
def pair (n : Nat) : Bytes :=
  [UInt8.ofNat (48 + n / 10 % 10), UInt8.ofNat (48 + n % 10)]

/-- The digits after the year, and the `Z`. -/
def tailOctets (t : DateTime) : Bytes :=
  pair t.month ++ pair t.day ++ pair t.hour ++ pair t.minute ++ pair t.second ++ [90]

/-- The date as an element. -/
def toElement : Time → Element
  | .utc t => ⟨utcOctet, pair (t.year % 100) ++ tailOctets t⟩
  | .generalized t => ⟨generalizedOctet, pair (t.year / 100) ++ pair (t.year % 100) ++ tailOctets t⟩

/-- The fields of a date. -/
def fields : Time → DateTime
  | .utc t => t
  | .generalized t => t

/-- The moment that a date names. -/
def timestamp (t : Time) : Timestamp := ⟨t.fields.seconds, 0⟩

end Time

end Credential.X509
