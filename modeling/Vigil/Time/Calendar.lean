/-!
# The calendar

Days are counted from 1970-01-01 in the Gregorian calendar, extended to all
years. `daysOfDate` and `dateOfDays` convert between a date and its number. The
year is taken to begin in March, so that the leap day is the last of its year.
-/

namespace Vigil.Calendar

/-- A date: year, month from 1 to 12, day from 1. -/
structure Date where
  year : Int
  month : Nat
  day : Nat
deriving Repr, DecidableEq

def isLeapYear (year : Int) : Bool :=
  year % 4 == 0 && (year % 100 != 0 || year % 400 == 0)

/-- The number of days of a month. -/
def daysInMonth (year : Int) (month : Nat) : Nat :=
  if month = 2 then (if isLeapYear year then 29 else 28)
  else if month = 4 ∨ month = 6 ∨ month = 9 ∨ month = 11 then 30
  else 31

/-- Whether a date stands in the calendar. -/
def Date.valid (d : Date) : Bool :=
  1 ≤ d.month && d.month ≤ 12 && 1 ≤ d.day && d.day ≤ daysInMonth d.year d.month

/-- The days of one turn of the calendar, 400 years. -/
def daysPerTurn : Int := 146097

/-- The number of a date, day zero being 1970-01-01. -/
def daysOfDate (d : Date) : Int :=
  let year := if d.month ≤ 2 then d.year - 1 else d.year
  let turn := year.fdiv 400
  let yearOfTurn := year - turn * 400
  let month : Int := if d.month > 2 then (d.month : Int) - 3 else d.month + 9
  let dayOfYear := (153 * month + 2) / 5 + d.day - 1
  let dayOfTurn := yearOfTurn * 365 + yearOfTurn / 4 - yearOfTurn / 100 + dayOfYear
  turn * daysPerTurn + dayOfTurn - 719468

/-- The date with a number. -/
def dateOfDays (days : Int) : Date :=
  let days := days + 719468
  let turn := days.fdiv daysPerTurn
  let dayOfTurn := days - turn * daysPerTurn
  let yearOfTurn :=
    (dayOfTurn - dayOfTurn / 1460 + dayOfTurn / 36524 - dayOfTurn / 146096) / 365
  let dayOfYear := dayOfTurn - (365 * yearOfTurn + yearOfTurn / 4 - yearOfTurn / 100)
  let month := (5 * dayOfYear + 2) / 153
  let day := dayOfYear - (153 * month + 2) / 5 + 1
  let civilMonth := if month < 10 then month + 3 else month - 9
  let year := yearOfTurn + turn * 400
  ⟨if civilMonth ≤ 2 then year + 1 else year, civilMonth.toNat, day.toNat⟩

example : daysOfDate ⟨1970, 1, 1⟩ = 0 := by decide
example : daysOfDate ⟨2000, 3, 1⟩ = 11017 := by decide
example : dateOfDays (-1) = ⟨1969, 12, 31⟩ := by decide
example : dateOfDays 11016 = ⟨2000, 2, 29⟩ := by decide

end Vigil.Calendar
