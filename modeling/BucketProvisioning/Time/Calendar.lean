/-!
# Points in time

An `Instant` is a point in time in universal time, to the microsecond.  A leap second is the second
after one that it shares its number with, so that points in time are ordered by their seconds and
then by their fractions.  Timestamps are written as the standard for resources asks: to the second
for objects, to the microsecond for leases.  The date follows from the number of days by the rule
of 400-year cycles, each beginning on the first of March.  A year that does not have four digits
carries a sign.

`addSeconds` leaves a leap second unless no time is added.
-/

set_option autoImplicit false

namespace BucketProvisioning

/-- A point in time. -/
structure Instant where
  /-- Seconds since the beginning of 1970, leap seconds left out; negative before it. -/
  second : Int
  /-- Microseconds within the second; from 1000000 on they lie in the leap second after it. -/
  fraction : Nat := 0
deriving DecidableEq, Repr, Inhabited

/-- A date of the calendar. -/
structure Date where
  /-- The year. -/
  year : Int
  /-- The month, from 1. -/
  month : Nat
  /-- The day of the month, from 1. -/
  day : Nat
deriving DecidableEq, Repr

namespace Date

/-- Days in a cycle of 400 years. -/
def cycleDays : Int := 146097

/-- Days between the start of the cycle that holds 1970 and the beginning of 1970. -/
def epochOffset : Int := 719468

/-- The date that lies `days` days after the beginning of 1970. -/
def ofDays (days : Int) : Date :=
  let z := days + epochOffset
  let cycle := z.fdiv cycleDays
  let d := (z - cycle * cycleDays).toNat
  let y := (d - d / 1460 + d / 36524 - d / 146096) / 365
  let dayOfYear := d - (365 * y + y / 4 - y / 100)
  let m := (5 * dayOfYear + 2) / 153
  let month := if m < 10 then m + 3 else m - 9
  let year : Int := cycle * 400 + y
  ⟨if month ≤ 2 then year + 1 else year, month, dayOfYear - (153 * m + 2) / 5 + 1⟩

/-- The number of days from the beginning of 1970 to a date. -/
def toDays (d : Date) : Int :=
  let year := if d.month ≤ 2 then d.year - 1 else d.year
  let cycle := year.fdiv 400
  let y := (year - cycle * 400).toNat
  let m := if 2 < d.month then d.month - 3 else d.month + 9
  let dayOfYear := (153 * m + 2) / 5 + d.day - 1
  cycle * cycleDays + ((y * 365 + y / 4 - y / 100 + dayOfYear : Nat) : Int) - epochOffset

/-- Whether a year has a 29th of February. -/
def isLeap (year : Int) : Bool :=
  year % 4 = 0 && (year % 100 ≠ 0 || year % 400 = 0)

/-- The number of days in a month. -/
def daysIn (year : Int) (month : Nat) : Nat :=
  match month with
  | 2 => if isLeap year then 29 else 28
  | 4 | 6 | 9 | 11 => 30
  | _ => 31

/-- Whether month and day exist. -/
def isValid (d : Date) : Bool :=
  1 ≤ d.month && d.month ≤ 12 && 1 ≤ d.day && d.day ≤ daysIn d.year d.month

end Date

/-- The first day that has a date. -/
def firstDay : Int := Date.toDays ⟨-262143, 1, 1⟩

/-- The last day that has a date. -/
def lastDay : Int := Date.toDays ⟨262142, 12, 31⟩

namespace Instant

/-- Microseconds in a second. -/
def perSecond : Nat := 1000000

/-- Seconds in a day. -/
def perDay : Int := 86400

instance : LT Instant :=
  ⟨fun a b => a.second < b.second ∨ a.second = b.second ∧ a.fraction < b.fraction⟩

instance (a b : Instant) : Decidable (a < b) :=
  inferInstanceAs (Decidable (_ ∨ _))

/-- Instants are compared by the second, and then by the fraction. -/
theorem lt_def (a b : Instant) :
    a < b ↔ a.second < b.second ∨ a.second = b.second ∧ a.fraction < b.fraction := Iff.rfl

/-- Whether the point in time lies in a leap second. -/
def inLeapSecond (t : Instant) : Bool := perSecond ≤ t.fraction

/-- The point in time a number of seconds later.  What lies in a leap second leaves it: forwards
as if it had not begun, backwards as if it were over. -/
def addSeconds (t : Instant) (secs : Int) : Instant :=
  if !t.inLeapSecond || secs = 0 then ⟨t.second + secs, t.fraction⟩
  else if 0 < secs then ⟨t.second + secs, t.fraction - perSecond⟩
  else ⟨t.second + 1 + secs, t.fraction - perSecond⟩

/-- Outside of leap seconds the seconds are simply added. -/
theorem addSeconds_of_lt (t : Instant) (secs : Int) (ordinary : t.fraction < perSecond) :
    t.addSeconds secs = ⟨t.second + secs, t.fraction⟩ := by
  simp [addSeconds, inLeapSecond, Nat.not_le.mpr ordinary]

/-- The number of days from the beginning of 1970. -/
def day (t : Instant) : Int := t.second.fdiv perDay

/-- Whether the point in time has a date. -/
def hasDate (t : Instant) : Bool := firstDay ≤ t.day && t.day ≤ lastDay

/-- Microseconds since the beginning of 1970. -/
def micros (t : Instant) : Int := t.second * perSecond + t.fraction

/-- The digits of a number, filled up with zeros. -/
def padded (width n : Nat) : List Char :=
  let ds := Nat.toDigits 10 n
  List.replicate (width - ds.length) '0' ++ ds

/-- Date and time of day up to the second; a leap second is a sixty-first one. -/
def dateAndTime (t : Instant) : List Char :=
  let secs := (t.second - t.day * perDay).toNat
  let leap := if t.inLeapSecond then 1 else 0
  let d := Date.ofDays t.day
  let sign := if d.year < 0 then ['-'] else if 9999 < d.year then ['+'] else []
  sign ++ padded 4 d.year.natAbs ++ '-' :: padded 2 d.month ++ '-' :: padded 2 d.day
    ++ 'T' :: padded 2 (secs / 3600) ++ ':' :: padded 2 (secs / 60 % 60)
    ++ ':' :: padded 2 (secs % 60 + leap)

/-- The timestamp to the second. -/
def toSecondText (t : Instant) : String := String.ofList (t.dateAndTime ++ ['Z'])

/-- The timestamp to the microsecond. -/
def toMicroText (t : Instant) : String :=
  String.ofList (t.dateAndTime ++ '.' :: padded 6 (t.fraction % perSecond) ++ ['Z'])

end Instant

end BucketProvisioning
