/-!
# Instants

An instant is a whole number of seconds since 1970-01-01T00:00:00Z and the nanoseconds after it; a
count of nanoseconds from 10⁹ up lies inside a leap second. Days are counted in the proleptic
Gregorian calendar, whose years `civilOfDay` and `dayOfCivil` reckon from March so that the leap day
ends the year.
-/

namespace ControlPlane

/-- A point in time. -/
structure Instant where
  /-- Seconds since 1970-01-01T00:00:00Z, rounded down. -/
  second : Int
  /-- Nanoseconds after that second. -/
  nano : Nat := 0
deriving DecidableEq, Inhabited

/-- A date of the Gregorian calendar. -/
structure CivilDate where
  year : Int
  month : Nat
  day : Nat
deriving DecidableEq

/-- Whether a year has a leap day. -/
def isLeapYear (year : Int) : Bool :=
  year % 4 = 0 && (year % 100 ≠ 0 || year % 400 = 0)

/-- The number of days of a month. -/
def daysInMonth (year : Int) (month : Nat) : Nat :=
  if month = 2 then (if isLeapYear year then 29 else 28)
  else if month = 4 ∨ month = 6 ∨ month = 9 ∨ month = 11 then 30
  else 31

/-- Whether the calendar has this date. -/
def CivilDate.isValid (d : CivilDate) : Bool :=
  1 ≤ d.month && d.month ≤ 12 && 1 ≤ d.day && d.day ≤ daysInMonth d.year d.month

/-- The number of a date's day, 1970-01-01 being day 0. -/
def dayOfCivil (d : CivilDate) : Int :=
  let year := if d.month ≤ 2 then d.year - 1 else d.year
  let month : Int := if d.month ≤ 2 then d.month + 9 else d.month - 3
  let dayOfYear := (153 * month + 2) / 5 + d.day - 1
  year * 365 + year / 4 - year / 100 + year / 400 + dayOfYear - 719468

/-- The date of a day. -/
def civilOfDay (day : Int) : CivilDate :=
  let shifted := day + 719468
  let era := shifted / 146097
  let dayOfEra := shifted % 146097
  let yearOfEra :=
    (dayOfEra - dayOfEra / 1460 + dayOfEra / 36524 - dayOfEra / 146096) / 365
  let dayOfYear := dayOfEra - (365 * yearOfEra + yearOfEra / 4 - yearOfEra / 100)
  let month := (5 * dayOfYear + 2) / 153
  let dayOfMonth := dayOfYear - (153 * month + 2) / 5 + 1
  let year := yearOfEra + era * 400
  if month < 10 then ⟨year, (month + 3).toNat, dayOfMonth.toNat⟩
  else ⟨year + 1, (month - 9).toNat, dayOfMonth.toNat⟩

/-- The number of nanoseconds in a second. -/
def nanosPerSecond : Nat := 1000000000

namespace Instant

/-- The instant lies inside a leap second. -/
def inLeapSecond (t : Instant) : Bool :=
  nanosPerSecond ≤ t.nano

/-- The day an instant lies on. -/
def day (t : Instant) : Int :=
  t.second / 86400

/-- Seconds since midnight. -/
def secondOfDay (t : Instant) : Int :=
  t.second % 86400

/-- Nanoseconds from `earlier` to `t`. A leap second counts as one second more when both lie
on a clock that has passed it since midnight. -/
def since (t earlier : Instant) : Int :=
  let leap : Int :=
    if earlier.secondOfDay < t.secondOfDay then (if earlier.inLeapSecond then 1 else 0)
    else if t.secondOfDay < earlier.secondOfDay then (if t.inLeapSecond then -1 else 0)
    else 0
  (t.second - earlier.second + leap) * nanosPerSecond + (t.nano - earlier.nano)

/-- Whole seconds from `earlier` to `t`, the fraction cut off. -/
def secondsSince (t earlier : Instant) : Int :=
  (t.since earlier).tdiv nanosPerSecond

end Instant

end ControlPlane
