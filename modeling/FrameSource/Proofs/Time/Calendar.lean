import FrameSource.Time.Calendar
import Mathlib.Tactic.IntervalCases

/-!
# Dates and day numbers

Every day number has a date, and that date is valid and has the number (`toDays_ofDays`,
`isValid_ofDays`). A day of an era splits into centuries, leap cycles and years with a rest below 366,
and the rest is 365 only on the last day of a year that ends in a leap day (`splitEra_spec`).
-/

namespace FrameSource

namespace Calendar

/-- A day of an era is a number of centuries, leap cycles and years, and a rest. The rest is 365 only
in the last year of a cycle, and in the last cycle of a century only in the last century. -/
theorem splitEra_spec {day : Nat} (h : day < 146097) :
    ∃ century cycle year rest, splitEra day = (100 * century + 4 * cycle + year, rest) ∧
      century < 4 ∧ cycle < 25 ∧ year < 4 ∧ rest < 366 ∧
      day = 36524 * century + 1461 * cycle + 365 * year + rest ∧
      (rest = 365 → year = 3 ∧ (cycle = 24 → century = 3)) := by
  obtain ⟨century, hcentury⟩ : ∃ century, century = min (day / 36524) 3 := ⟨_, rfl⟩
  obtain ⟨inCentury, hin⟩ : ∃ inCentury, inCentury = day - 36524 * century := ⟨_, rfl⟩
  obtain ⟨inCycle, hinCycle⟩ : ∃ inCycle, inCycle = inCentury - 1461 * (inCentury / 1461) := ⟨_, rfl⟩
  obtain ⟨year, hyear⟩ : ∃ year, year = min (inCycle / 365) 3 := ⟨_, rfl⟩
  have hcenturies : century < 4 ∧ day = 36524 * century + inCentury ∧ inCentury < 36525 ∧
      (inCentury = 36524 → century = 3) := by omega
  have hcycles : inCentury / 1461 < 25 ∧ inCentury = 1461 * (inCentury / 1461) + inCycle ∧
      inCycle < 1461 := by omega
  have hyears : year < 4 ∧ inCycle = 365 * year + (inCycle - 365 * year) ∧
      inCycle - 365 * year < 366 ∧ (inCycle - 365 * year = 365 → year = 3 ∧ inCycle = 1460) := by
    omega
  refine ⟨century, inCentury / 1461, year, inCycle - 365 * year, ?_, hcenturies.1, hcycles.1,
    hyears.1, hyears.2.2.1, by omega, by omega⟩
  simp only [splitEra, ← hcentury, ← hin, ← hinCycle, ← hyear]

/-- A day of a year, counted from March, falls between the start of its month and of the next. -/
theorem monthOfDay_spec {day : Nat} (h : day < 366) :
    monthOfDay day < 12 ∧ monthStart (monthOfDay day) ≤ day ∧
      day < monthStart (monthOfDay day + 1) := by
  unfold monthOfDay monthStart
  omega

/-- The month of the calendar for a month counted from March. -/
def civilMonth (month : Nat) : Nat :=
  if month < 10 then month + 3 else month - 9

/-- Months counted from March are months of the calendar; the last two belong to the next year. -/
theorem civilMonth_spec {month : Nat} (h : month < 12) :
    1 ≤ civilMonth month ∧ civilMonth month ≤ 12 ∧ (civilMonth month + 9) % 12 = month ∧
      (civilMonth month ≤ 2 ↔ ¬ month < 10) := by
  unfold civilMonth
  split <;> omega

/-- All months but the last one, which is February, have the same length in every year. -/
theorem monthStart_succ {month : Nat} (h : month < 11) (year : Int) :
    monthStart (month + 1) = monthStart month + daysInMonth year (civilMonth month) := by
  interval_cases month <;> rfl

/-- No month has more than thirty-one days, so two digits are enough for a day. -/
theorem daysInMonth_le (year : Int) (month : Nat) : daysInMonth year month ≤ 31 := by
  unfold daysInMonth
  split
  · split <;> decide
  · split <;> decide

end Calendar

namespace CivilDate

open Calendar

/-- A date is valid if its month exists and the month has that day in that year. -/
theorem isValid_iff {date : CivilDate} :
    date.isValid = true ↔ (1 ≤ date.month ∧ date.month ≤ 12) ∧
      1 ≤ date.day ∧ date.day ≤ daysInMonth date.year date.month := by
  simp only [isValid, Bool.and_eq_true, decide_eq_true_eq, and_assoc]

/-- The date of a day number, by the era, the year of the era and the day of that year. -/
theorem ofDays_spec (days : Int) :
    ∃ (era : Int) (year rest : Nat),
      year < 400 ∧ rest < 366 ∧ days + epochDay = era * 146097 + (yearStart year + rest : Nat) ∧
      (rest = 365 → isLeapYear (era * 400 + year + 1) = true) ∧
      ofDays days =
        { year := if monthOfDay rest < 10 then era * 400 + year else era * 400 + year + 1
          month := civilMonth (monthOfDay rest)
          day := rest - monthStart (monthOfDay rest) + 1 } := by
  have hday : ((days + epochDay) % 146097).toNat < 146097 := by omega
  obtain ⟨century, cycle, year, rest, hsplit, hcentury, hcycle, hyear, hrest, heq, hleap⟩ :=
    splitEra_spec hday
  refine ⟨(days + epochDay) / 146097, 100 * century + 4 * cycle + year, rest, by omega, hrest,
    ?_, ?_, ?_⟩
  · rw [yearStart_eq (by omega) hyear]
    omega
  · intro h
    obtain ⟨rfl, hlast⟩ := hleap h
    simp only [isLeapYear, Bool.and_eq_true, Bool.or_eq_true, decide_eq_true_eq]
    omega
  · simp only [ofDays, hsplit, civilMonth]

/-- The day number of the date of a day number is that number. -/
theorem toDays_ofDays (days : Int) : (ofDays days).toDays = days := by
  obtain ⟨era, year, rest, hyear, hrest, hdays, _, hdate⟩ := ofDays_spec days
  obtain ⟨hmonth, hstart, _⟩ := monthOfDay_spec hrest
  obtain ⟨_, _, hback, hlate⟩ := civilMonth_spec hmonth
  -- January and February are counted in the year before, which undoes what the date added.
  have hcount : (if civilMonth (monthOfDay rest) ≤ 2 then
      (if monthOfDay rest < 10 then era * 400 + (year : Int) else era * 400 + year + 1) - 1
      else if monthOfDay rest < 10 then era * 400 + (year : Int) else era * 400 + year + 1) =
      era * 400 + year := by
    split <;> split <;> omega
  have hera : (era * 400 + (year : Int)) / 400 = era := by omega
  have hinEra : ((era * 400 + (year : Int)) % 400).toNat = year := by omega
  have hinYear : monthStart (monthOfDay rest) + (rest - monthStart (monthOfDay rest) + 1 - 1) =
      rest := by omega
  rw [hdate, toDays]
  simp only [hcount, hera, hinEra, hback, hinYear]
  omega

theorem isValid_ofDays (days : Int) : (ofDays days).isValid = true := by
  obtain ⟨era, year, rest, _, hrest, _, hleap, hdate⟩ := ofDays_spec days
  obtain ⟨hmonth, hstart, hnext⟩ := monthOfDay_spec hrest
  obtain ⟨hfirst, hlast, _, _⟩ := civilMonth_spec hmonth
  rw [hdate, isValid_iff]
  refine ⟨⟨hfirst, hlast⟩, Nat.le_add_left 1 _, ?_⟩
  show rest - monthStart (monthOfDay rest) + 1 ≤
    daysInMonth (if monthOfDay rest < 10 then era * 400 + year else era * 400 + year + 1)
      (civilMonth (monthOfDay rest))
  by_cases hfebruary : monthOfDay rest < 11
  · rw [monthStart_succ hfebruary (if monthOfDay rest < 10 then era * 400 + year
      else era * 400 + year + 1)] at hnext
    omega
  · -- The 29th is the day 365 of its year, which only years before a leap year's March have.
    have heleven : monthOfDay rest = 11 := by omega
    have hstart' : monthStart 11 = 337 := rfl
    rw [heleven] at hstart ⊢
    rw [if_neg (by decide), daysInMonth, if_pos (by decide)]
    by_cases hrest365 : rest = 365
    · rw [hleap hrest365, if_pos rfl]
      omega
    · split <;> omega

end CivilDate

end FrameSource
