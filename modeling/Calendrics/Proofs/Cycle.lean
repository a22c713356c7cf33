import Calendrics.Date
import Calendrics.Proofs.DayOrder

/-! Both calendars repeat. Over a cycle of years the floor terms of the closed form grow by whole
numbers, so the day number of a month and day grows by the days of the cycle, whatever the year.
From this one fact the lengths of years, the leap rule, the triples that the calendar has and the
decoded dates all repeat, and every window of so many years holds the same days and leap years. Main
statement: `calendars_repeat`. -/
namespace Calendrics

open Finset

/-- The same month and day some years later, or earlier. -/
def Triple.addYears (t : Triple) (years : Int) : Triple := ⟨t.year + years, t.month, t.day⟩

/-- A number of years after which a calendar repeats, with the days and the leap years among
them. -/
structure Cycle where
  years : Int
  days : Int
  leapYears : Nat

theorem Gregorian.dayNumber_addYears (t : Triple) (k : Int) :
    dayNumber (t.addYears (400 * k)) = dayNumber t + 146097 * k := by
  simp only [dayNumber, Triple.addYears]
  omega

theorem Hijri.dayNumber_addYears (t : Triple) (k : Int) :
    dayNumber (t.addYears (30 * k)) = dayNumber t + 10631 * k := by
  simp only [dayNumber, count, commonYear, leapDaysBefore, cycleLeapYears, cycleYears,
    Triple.addYears]
  omega

namespace Calendar

variable (c : Calendar)

def cycle : Calendar → Cycle
  | gregorian => ⟨400, 146097, 97⟩
  | hijri => ⟨30, 10631, 11⟩

def commonYear : Calendar → Nat
  | gregorian => 365
  | hijri => Hijri.commonYear

theorem dayNumber_addYears (t : Triple) (k : Int) :
    c.dayNumber (t.addYears (c.cycle.years * k)) = c.dayNumber t + c.cycle.days * k :=
  match c with
  | gregorian => Gregorian.dayNumber_addYears t k
  | hijri => Hijri.dayNumber_addYears t k

theorem daysInYear_eq (year : Int) :
    c.daysInYear year = c.commonYear + if c.IsLeapYear year then 1 else 0 := by
  cases c with
  | gregorian =>
    simp only [daysInYear, Gregorian.daysInYear, commonYear, IsLeapYear]
    by_cases leap : Gregorian.IsLeapYear year
    · simp only [leap, if_true]
    · simp only [leap, if_false, add_zero]
  | hijri =>
    simp only [daysInYear, Hijri.daysInYear, commonYear, IsLeapYear]
    by_cases leap : Hijri.IsLeapYear year
    · simp only [leap, if_true]
    · simp only [leap, if_false, add_zero]

theorem isLeapYear_iff_daysInYear (year : Int) :
    c.IsLeapYear year ↔ c.daysInYear year = c.commonYear + 1 := by
  rw [daysInYear_eq]
  by_cases leap : c.IsLeapYear year
  · simp [leap]
  · simp [leap]

/- A year is as long as the distance from its new year to the next, and both new years move by the
same days. -/
@[simp] theorem daysInYear_add_cycles (year k : Int) :
    c.daysInYear (year + c.cycle.years * k) = c.daysInYear year := by
  have length := c.dayNumber_next_year year 1
  have moved_length := c.dayNumber_next_year (year + c.cycle.years * k) 1
  have new_year := c.dayNumber_addYears ⟨year, 1, 1⟩ k
  have next_new_year := c.dayNumber_addYears ⟨year + 1, 1, 1⟩ k
  simp only [Triple.addYears, add_right_comm year 1] at new_year next_new_year
  omega

@[simp] theorem isLeapYear_add_cycles (year k : Int) :
    c.IsLeapYear (year + c.cycle.years * k) ↔ c.IsLeapYear year := by
  simp [isLeapYear_iff_daysInYear]

/- The length of a month depends on the year through the leap rule only. -/
@[simp] theorem daysInMonth_add_cycles (year k : Int) (month : Nat) :
    c.daysInMonth (year + c.cycle.years * k) month = c.daysInMonth year month := by
  have leap := c.isLeapYear_add_cycles year k
  cases c with
  | gregorian =>
    simp only [IsLeapYear] at leap
    simp only [daysInMonth, Gregorian.daysInMonth, leap]
  | hijri =>
    simp only [IsLeapYear] at leap
    simp only [daysInMonth, Hijri.daysInMonth, leap]

variable {c}

theorem Has.addYears {t : Triple} (h : c.Has t) (k : Int) :
    c.Has (t.addYears (c.cycle.years * k)) where
  month_pos := h.month_pos
  month_le := h.month_le
  day_pos := h.day_pos
  day_le := by simpa [Triple.addYears] using h.day_le

variable (c)

/- The calendar has only one triple on a day, so the decoder has no choice: the moved date is on the
moved day. -/
theorem ofDayNumber_add_cycles (j k : Int) :
    c.ofDayNumber (j + c.cycle.days * k) = (c.ofDayNumber j).addYears (c.cycle.years * k) := by
  apply dayNumber_injective (c.has_ofDayNumber _) ((c.has_ofDayNumber j).addYears k)
  rw [dayNumber_addYears, dayNumber_ofDayNumber, dayNumber_ofDayNumber]

theorem days_of_window (first : Int) :
    ∑ year ∈ Ico first (first + c.cycle.years), (c.daysInYear year : Int) = c.cycle.days := by
  have forward : first ≤ first + c.cycle.years := by
    cases c <;> simp [cycle]
  have days := c.dayNumber_new_year_of_le forward
  have moved := c.dayNumber_addYears ⟨first, 1, 1⟩ 1
  simp only [Triple.addYears, mul_one] at moved
  omega

theorem sum_daysInYear (years : Finset Int) :
    ∑ year ∈ years, c.daysInYear year =
      c.commonYear * years.card + (years.filter c.IsLeapYear).card := by
  simp only [daysInYear_eq, sum_add_distrib, sum_const, smul_eq_mul, card_filter, mul_comm]

/- The days of a window beyond those of common years are its leap days. -/
theorem leap_years_of_window (first : Int) :
    ((Ico first (first + c.cycle.years)).filter c.IsLeapYear).card = c.cycle.leapYears := by
  have days := c.days_of_window first
  have split := c.sum_daysInYear (Ico first (first + c.cycle.years))
  rw [Int.card_Ico, add_sub_cancel_left] at split
  rw [← Nat.cast_sum, split] at days
  cases c with
  | gregorian =>
    simp only [cycle, commonYear] at days ⊢
    omega
  | hijri =>
    simp only [cycle, commonYear, Hijri.commonYear] at days ⊢
    omega

/-- A calendar repeats in a cycle: days that lie whole cycles apart have one month and day, in years
that lie as many cycles apart, and any window of the cycle's years holds the cycle's leap years and
days. -/
structure Repeats (cycle : Cycle) : Prop where
  dates : ∀ (k : Int) (i j : DayNumber), j.value = i.value + cycle.days * k →
    (Date.ofDayNumber c j).triple = (Date.ofDayNumber c i).triple.addYears (cycle.years * k)
  leap_years : ∀ first : Int,
    ((Ico first (first + cycle.years)).filter c.IsLeapYear).card = cycle.leapYears
  days : ∀ first : Int,
    ∑ year ∈ Ico first (first + cycle.years), (c.daysInYear year : Int) = cycle.days

end Calendar

/-- The Hijri calendar repeats every 30 years, which have 10631 days and 11 leap years; the
Gregorian every 400 years, which have 146097 days and 97 leap years. -/
theorem calendars_repeat :
    Calendar.hijri.Repeats { years := 30, days := 10631, leapYears := 11 } ∧
      Calendar.gregorian.Repeats { years := 400, days := 146097, leapYears := 97 } := by
  have repeats : ∀ c : Calendar, c.Repeats c.cycle := by
    intro c
    constructor
    · intro k i j apart
      have dates := c.ofDayNumber_add_cycles i.value k
      rw [← apart] at dates
      exact dates
    · exact c.leap_years_of_window
    · exact c.days_of_window
  exact ⟨repeats .hijri, repeats .gregorian⟩

/- From a leap day to the one six cycles before it, on the other side of year zero. -/
theorem leap_day_repeats_before_year_zero :
    let later : DayNumber := ⟨2451604, by decide⟩
    let earlier : DayNumber := ⟨1575022, by decide⟩
    earlier.value = later.value + 146097 * (-6) ∧
      (Date.ofDayNumber .gregorian later).triple = ⟨2000, 2, 29⟩ ∧
      (Date.ofDayNumber .gregorian earlier).triple = ⟨-400, 2, 29⟩ := by
  intro later earlier
  have apart : earlier.value = later.value + 146097 * (-6) := by decide
  have date : (Date.ofDayNumber .gregorian later).triple = ⟨2000, 2, 29⟩ := by decide
  have moved := calendars_repeat.2.dates (-6) later earlier apart
  rw [date] at moved
  exact ⟨apart, date, moved⟩

end Calendrics
