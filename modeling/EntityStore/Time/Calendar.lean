set_option autoImplicit false

/-! # Days of the Gregorian calendar

A day is counted from 1 January 1970. The count and the date determine each other: 400 years are
always 146097 days, and within such an era the year is counted from March, so that the leap day is
the last day of its year and the months before it have the lengths 31, 30, 31, 30, 31 over and
over. The calendar is extended without end in both directions; the year 0 is the year before 1. -/

namespace EntityStore

structure CivilDate where
  /-- The year; 0 is the year before 1. -/
  year : Int
  /-- The month, from 1 to 12. -/
  month : Nat
  /-- The day of the month, from 1. -/
  day : Nat
deriving DecidableEq, Repr

namespace CivilDate

def isLeapYear (year : Int) : Bool :=
  year % 4 == 0 && (year % 100 != 0 || year % 400 == 0)

/-- How many days a month has; none, if there is no such month. -/
def monthLength (year : Int) (month : Nat) : Nat :=
  if month = 2 then (if isLeapYear year then 29 else 28)
  else if month ∈ [4, 6, 9, 11] then 30
  else if 1 ≤ month ∧ month ≤ 12 then 31
  else 0

def isValid (d : CivilDate) : Bool := 1 ≤ d.day && d.day ≤ monthLength d.year d.month

/-- The number of the day, counted from 1 January 1970. -/
def toDays (d : CivilDate) : Int :=
  let year := if d.month ≤ 2 then d.year - 1 else d.year
  let era := year / 400
  let yearOfEra := year % 400
  let monthFromMarch : Int := (((d.month + 9) % 12 : Nat) : Int)
  let dayOfYear := (153 * monthFromMarch + 2) / 5 + ((d.day : Int) - 1)
  let dayOfEra := yearOfEra * 365 + yearOfEra / 4 - yearOfEra / 100 + dayOfYear
  era * 146097 + dayOfEra - 719468

/-- The date of a day that is counted from 1 January 1970. -/
def ofDays (days : Int) : CivilDate :=
  let shifted := days + 719468
  let era := shifted / 146097
  let dayOfEra := shifted % 146097
  let yearOfEra := (dayOfEra - dayOfEra / 1460 + dayOfEra / 36524 - dayOfEra / 146096) / 365
  let dayOfYear := dayOfEra - (365 * yearOfEra + yearOfEra / 4 - yearOfEra / 100)
  let monthFromMarch := (5 * dayOfYear + 2) / 153
  let day := dayOfYear - (153 * monthFromMarch + 2) / 5 + 1
  let month := if monthFromMarch < 10 then monthFromMarch + 3 else monthFromMarch - 9
  { year := yearOfEra + era * 400 + if month ≤ 2 then 1 else 0
    month := month.toNat
    day := day.toNat }

example : toDays ⟨1970, 1, 1⟩ = 0 ∧ toDays ⟨2024, 2, 29⟩ = 19782 := by decide
example : ofDays (-719528) = ⟨0, 1, 1⟩ := by decide

end CivilDate

end EntityStore
