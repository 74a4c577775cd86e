/-
# Courier.Timestamp -- points in civil time

A `Timestamp` is a whole number of seconds since the start of 1970 in UTC and a
number of nanoseconds beyond them; a leap second is the second before it with
`10 ^ 9` more nanoseconds.  `Date` is a day of the Gregorian calendar, counted
backwards without end, and `Date.days` and `Date.ofDays` go between a date and its
distance from 1970-01-01.
-/

namespace Courier

set_option autoImplicit false

/-- A point in civil time. -/
structure Timestamp where
  /-- Seconds since 1970-01-01T00:00:00Z. -/
  seconds : Int
  /-- Nanoseconds beyond the second; `10 ^ 9` and more within a leap second. -/
  nanos : Nat
  deriving DecidableEq

/-- A day of the Gregorian calendar. -/
structure Date where
  year : Int
  month : Nat
  day : Nat
  deriving DecidableEq

namespace Date

/-- Whether a year has a 29th of February. -/
def isLeap (year : Int) : Bool := year % 4 == 0 && (year % 100 != 0 || year % 400 == 0)

/-- Days of a month. -/
def monthLength (year : Int) (month : Nat) : Nat :=
  if month = 2 then (if isLeap year then 29 else 28)
  else if month ∈ [4, 6, 9, 11] then 30
  else 31

/-- Years outside these bounds are not counted. -/
def firstYear : Int := -262143
def lastYear : Int := 262142

/-- Whether a date exists. -/
def isValid (d : Date) : Bool :=
  decide (firstYear ≤ d.year ∧ d.year ≤ lastYear)
    && decide (1 ≤ d.month ∧ d.month ≤ 12)
    && decide (1 ≤ d.day ∧ d.day ≤ monthLength d.year d.month)

/-- Days from 1970-01-01. -/
def days (d : Date) : Int :=
  let year : Int := if d.month ≤ 2 then d.year - 1 else d.year
  let month : Nat := (d.month + 9) % 12
  let era := year.fdiv 400
  let yearOfEra := year - era * 400
  let dayOfYear : Int := ((153 * month + 2) / 5 : Nat) + (d.day : Int) - 1
  let dayOfEra := yearOfEra * 365 + yearOfEra / 4 - yearOfEra / 100 + dayOfYear
  era * 146097 + dayOfEra - 719468

/-- The date that many days from 1970-01-01. -/
def ofDays (days : Int) : Date :=
  let shifted := days + 719468
  let era := shifted.fdiv 146097
  let dayOfEra := (shifted - era * 146097).toNat
  let yearOfEra := (dayOfEra - dayOfEra / 1460 + dayOfEra / 36524 - dayOfEra / 146096) / 365
  let dayOfYear := dayOfEra - (365 * yearOfEra + yearOfEra / 4 - yearOfEra / 100)
  let month := (5 * dayOfYear + 2) / 153
  let day := dayOfYear - (153 * month + 2) / 5 + 1
  let civilMonth := if month < 10 then month + 3 else month - 9
  let year := (yearOfEra : Int) + era * 400
  ⟨if civilMonth ≤ 2 then year + 1 else year, civilMonth, day⟩

end Date

namespace Timestamp

/-- The date in UTC. -/
def date (t : Timestamp) : Date := .ofDays (t.seconds.fdiv 86400)

/-- Seconds since midnight in UTC. -/
def secondOfDay (t : Timestamp) : Nat := (t.seconds - t.seconds.fdiv 86400 * 86400).toNat

/-- Microseconds since the start of 2000 in UTC, what is beyond whole ones cut off. -/
def microsSince2000 (t : Timestamp) : Int :=
  ((t.seconds - 946684800) * 1000000000 + t.nanos).tdiv 1000

/-- The point that many microseconds after the start of 2000 in UTC. -/
def ofMicrosSince2000 (micros : Int) : Timestamp :=
  let seconds := micros.fdiv 1000000
  ⟨946684800 + seconds, (micros - seconds * 1000000).toNat * 1000⟩

end Timestamp

end Courier
