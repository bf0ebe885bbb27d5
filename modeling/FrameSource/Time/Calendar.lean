/-!
# The civil calendar

Dates of the proleptic Gregorian calendar and their day numbers, day 0 being 1970-01-01. A year is
counted from March, so that the leap day is the last of its year, and years fall into eras of 400
years, which all have 146097 days. Inside an era the day number splits into centuries, leap cycles of
four years, and years; the last century and the last year of a cycle take what is left over.
-/

namespace FrameSource

/-- A date of the proleptic Gregorian calendar; months and days count from one. -/
structure CivilDate where
  year : Int
  month : Nat
  day : Nat
deriving DecidableEq, Repr

namespace Calendar

/-- Whether a year has a leap day. -/
def isLeapYear (year : Int) : Bool :=
  year % 4 = 0 && (year % 100 ≠ 0 || year % 400 = 0)

/-- How many days a month has. -/
def daysInMonth (year : Int) (month : Nat) : Nat :=
  if month = 2 then (if isLeapYear year then 29 else 28)
  else if month ∈ [4, 6, 9, 11] then 30
  else 31

/-- The day of its era on which a year, counted from March, begins. -/
def yearStart (year : Nat) : Nat :=
  365 * year + year / 4 - year / 100

/-- The day of its year, counted from March, on which a month begins; March is month 0. -/
def monthStart (month : Nat) : Nat :=
  (153 * month + 2) / 5

/-- The month, counted from March, that a day of the year falls in. -/
def monthOfDay (day : Nat) : Nat :=
  (5 * day + 2) / 153

/-- The year of an era and the day of that year that a day of the era falls on. -/
def splitEra (day : Nat) : Nat × Nat :=
  let century := min (day / 36524) 3
  let inCentury := day - 36524 * century
  let cycle := inCentury / 1461
  let inCycle := inCentury - 1461 * cycle
  let year := min (inCycle / 365) 3
  (100 * century + 4 * cycle + year, inCycle - 365 * year)

/-- Days from 0000-03-01, where the eras are counted from, to 1970-01-01. -/
def epochDay : Int := 719468

/-- The first day of a year, counted by centuries, leap cycles and years within a cycle. Years begin
in March, so the leap day is the last day of its cycle and the sum is linear within one. -/
theorem yearStart_eq {century cycle year : Nat} (h : 4 * cycle + year < 100) (hy : year < 4) :
    yearStart (100 * century + 4 * cycle + year) =
      36524 * century + 1461 * cycle + 365 * year := by
  unfold yearStart
  omega

end Calendar

namespace CivilDate

open Calendar

/-- Whether year, month and day name a day that exists. -/
def isValid (date : CivilDate) : Bool :=
  1 ≤ date.month && date.month ≤ 12 && 1 ≤ date.day &&
    date.day ≤ daysInMonth date.year date.month

/-- The day number of a date. -/
def toDays (date : CivilDate) : Int :=
  let year := if date.month ≤ 2 then date.year - 1 else date.year
  let dayOfYear := monthStart ((date.month + 9) % 12) + (date.day - 1)
  year / 400 * 146097 + (yearStart (year % 400).toNat + dayOfYear : Nat) - epochDay

/-- The date of a day number. -/
def ofDays (days : Int) : CivilDate :=
  let day := days + epochDay
  let (year, dayOfYear) := splitEra (day % 146097).toNat
  let month := monthOfDay dayOfYear
  let year := day / 146097 * 400 + (year : Int)
  { year := if month < 10 then year else year + 1
    month := if month < 10 then month + 3 else month - 9
    day := dayOfYear - monthStart month + 1 }

end CivilDate

end FrameSource
