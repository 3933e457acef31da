/-!
# Instants and calendar dates

An instant is a number of seconds since the beginning of 1970 in universal time. The calendar is the
Gregorian one, carried back before its introduction, with a year zero.

* `daysBefore` counts the days from the beginning of 1970 to a date, `dateOf` finds the date again.
* Both count years from March, so that the leap day is the last day of its year.
* A leap second belongs to the second before it.
-/

namespace TrialProtocol

/-- A point in time: whole seconds since the beginning of 1970, and whether it is the leap second
    behind that second. -/
structure Instant where
  seconds : Int
  isLeap : Bool := false
  deriving DecidableEq, Repr, Inhabited

namespace Calendar

/-- A date of the calendar. -/
structure Date where
  year : Int
  month : Nat
  day : Nat
  deriving DecidableEq, Repr

/-! ## 1. Months and years -/

/-- Whether a year has a leap day. -/
def isLeapYear (year : Int) : Bool :=
  year % 4 == 0 && (year % 100 != 0 || year % 400 == 0)

/-- The number of days of a month. -/
def daysInMonth (year : Int) (month : Nat) : Nat :=
  if month = 2 then (if isLeapYear year then 29 else 28)
  else if month = 4 ∨ month = 6 ∨ month = 9 ∨ month = 11 then 30
  else 31

/-- The years that have dates here. -/
def minYear : Int := -262143

def maxYear : Int := 262142

/-- Whether a date exists. -/
def Date.isValid (d : Date) : Bool :=
  minYear ≤ d.year && d.year ≤ maxYear && 1 ≤ d.month && d.month ≤ 12 && 1 ≤ d.day &&
    d.day ≤ daysInMonth d.year d.month

/-! ## 2. Counting days -/

/-- The days from the beginning of March of the year zero to that of 1970 and further to January. -/
def epochDays : Int := 719468

/-- The days from the beginning of 1970 to a date. -/
def daysBefore (d : Date) : Int :=
  let marchYear := if d.month ≤ 2 then d.year - 1 else d.year
  let era := marchYear / 400
  let yearOfEra := marchYear % 400
  let dayOfYear := (153 * ((d.month + 9) % 12) + 2) / 5 + d.day - 1
  era * 146097 + (yearOfEra * 365 + yearOfEra / 4 - yearOfEra / 100 + (dayOfYear : Nat)) - epochDays

/-- The date so many days after the beginning of 1970. -/
def dateOf (days : Int) : Date :=
  let n := days + epochDays
  let era := n / 146097
  let dayOfEra := (n % 146097).toNat
  let yearOfEra := (dayOfEra - dayOfEra / 1460 + dayOfEra / 36524 - dayOfEra / 146096) / 365
  let dayOfYear := dayOfEra - (365 * yearOfEra + yearOfEra / 4 - yearOfEra / 100)
  let m := (5 * dayOfYear + 2) / 153
  let day := dayOfYear - (153 * m + 2) / 5 + 1
  let month := if m < 10 then m + 3 else m - 9
  { year := yearOfEra + era * 400 + (if month ≤ 2 then 1 else 0), month, day }

/-- The day of the week, from Sunday as zero. -/
def weekdayOf (days : Int) : Nat :=
  ((days + 4) % 7).toNat

/-! ## 3. Times of day -/

/-- A date and a time of day; the second may be a leap second. -/
structure DateTime where
  date : Date
  hour : Nat
  minute : Nat
  second : Nat
  deriving DecidableEq, Repr

/-- The date and time of an instant. -/
def DateTime.ofInstant (t : Instant) : DateTime :=
  let ofDay := (t.seconds % 86400).toNat
  { date := dateOf (t.seconds / 86400)
    hour := ofDay / 3600
    minute := ofDay / 60 % 60
    second := ofDay % 60 + if t.isLeap then 1 else 0 }

/-- The instant of a date and time at an offset from universal time, in seconds. Both the local date
    and the universal one have to exist. -/
def DateTime.toInstant? (t : DateTime) (offset : Int) : Option Instant :=
  if t.date.isValid ∧ t.hour < 24 ∧ t.minute < 60 ∧ t.second ≤ 60 then
    let ofDay := t.hour * 3600 + t.minute * 60 + min t.second 59
    let seconds := daysBefore t.date * 86400 + ofDay - offset
    if (dateOf (seconds / 86400)).isValid then some ⟨seconds, t.second == 60⟩ else none
  else none

end Calendar

end TrialProtocol
