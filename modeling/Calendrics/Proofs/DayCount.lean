import Mathlib
import Calendrics.Rules

/-! The closed forms count days. A step to the next year adds the length of the year, and a step to
the next month the length of the month, so a day number is the number of a known new year with the
lengths of whole years, whole months and single days after it, or less the years before it. Main
statements: `Gregorian.dayNumber_eq_days_from_2000` and `Hijri.dayNumber_eq_days_from_epoch`. -/
namespace Calendrics

open Finset

namespace Gregorian

/- The closed form is at home in years that begin on 1 March: the leap day of a year is the last day
of the one that began the March before, and is counted when the year in the formula goes up. -/
theorem leap_days_next (year : Int) :
    (year + 4800) / 4 - (year + 4800) / 100 + (year + 4800) / 400 =
      (year + 4799) / 4 - (year + 4799) / 100 + (year + 4799) / 400 +
        if IsLeapYear year then 1 else 0 := by
  simp only [isLeapYear_iff_dvd]
  split
  · omega
  · omega

theorem dayNumber_next_year (year : Int) (day : Nat) :
    dayNumber ⟨year + 1, 1, day⟩ = dayNumber ⟨year, 1, day⟩ + daysInYear year := by
  have leap := leap_days_next year
  simp only [dayNumber, yearsBack, daysInYear]
  by_cases h : IsLeapYear year
  · rw [if_pos h] at leap ⊢
    omega
  · rw [if_neg h] at leap ⊢
    omega

theorem dayNumber_next_month (year : Int) (day : Nat) {month : Nat} (low : 1 ≤ month)
    (high : month < monthsInYear) :
    dayNumber ⟨year, month + 1, day⟩ = dayNumber ⟨year, month, day⟩ + daysInMonth year month := by
  simp only [monthsInYear] at high
  simp only [dayNumber, yearsBack, daysInMonth]
  by_cases ends : month = february
  · have leap := leap_days_next year
    subst ends
    by_cases h : IsLeapYear year
    · simp only [h, february, leapFebruary, if_true, and_self] at leap ⊢
      omega
    · simp only [h, february, commonMonths, if_false, and_false, List.getD_cons_succ,
        List.getD_cons_zero] at leap ⊢
      omega
  · -- no other month has a length that depends on the year
    have others : month = 1 ∨ month = 3 ∨ month = 4 ∨ month = 5 ∨ month = 6 ∨ month = 7 ∨
        month = 8 ∨ month = 9 ∨ month = 10 ∨ month = 11 := by
      simp only [february] at ends
      omega
    simp only [ends, false_and, if_false]
    rcases others with rfl | rfl | rfl | rfl | rfl | rfl | rfl | rfl | rfl | rfl
    all_goals
      simp only [commonMonths, List.getD_cons_succ, List.getD_cons_zero]
      omega

end Gregorian

namespace Hijri

/-- The term of the closed form grows by one exactly over the years of the leap predicate. -/
theorem leapDaysBefore_next (year : Int) :
    leapDaysBefore (year + 1) = leapDaysBefore year + if IsLeapYear year then 1 else 0 := by
  have next : 3 + 11 * (year + 1) = 11 * year + 14 := by omega
  simp only [leapDaysBefore, cycleLeapYears, cycleYears, next]
  by_cases leap : IsLeapYear year
  · rw [if_pos leap]
    rw [isLeapYear_iff] at leap
    omega
  · rw [if_neg leap]
    rw [isLeapYear_iff] at leap
    omega

theorem dayNumber_next_year (year : Int) (day : Nat) :
    dayNumber ⟨year + 1, 1, day⟩ = dayNumber ⟨year, 1, day⟩ + daysInYear year := by
  simp only [dayNumber, count, leapDaysBefore_next, daysInYear, commonYear]
  split
  · omega
  · omega

theorem dayNumber_next_month (year : Int) (day : Nat) {month : Nat}
    (high : month < monthsInYear) :
    dayNumber ⟨year, month + 1, day⟩ = dayNumber ⟨year, month, day⟩ + daysInMonth year month := by
  have early : month ≠ leapMonth := Nat.ne_of_lt high
  simp only [dayNumber, count, daysBeforeMonth, daysInMonth, early, false_and, or_false, longMonth,
    shortMonth]
  split
  · omega
  · omega

end Hijri

namespace Calendar

variable (c : Calendar)

theorem dayNumber_next_year (year : Int) (day : Nat) :
    c.dayNumber ⟨year + 1, 1, day⟩ = c.dayNumber ⟨year, 1, day⟩ + c.daysInYear year :=
  match c with
  | gregorian => Gregorian.dayNumber_next_year year day
  | hijri => Hijri.dayNumber_next_year year day

theorem dayNumber_next_month (year : Int) (day : Nat) {month : Nat} (low : 1 ≤ month)
    (high : month < monthsInYear) :
    c.dayNumber ⟨year, month + 1, day⟩ =
      c.dayNumber ⟨year, month, day⟩ + c.daysInMonth year month :=
  match c with
  | gregorian => Gregorian.dayNumber_next_month year day low high
  | hijri => Hijri.dayNumber_next_month year day high

theorem dayNumber_day (year : Int) (month day : Nat) :
    c.dayNumber ⟨year, month, day⟩ = c.dayNumber ⟨year, month, 1⟩ + day - 1 := by
  cases c with
  | gregorian =>
    simp only [dayNumber, Gregorian.dayNumber]
    omega
  | hijri =>
    simp only [dayNumber, Hijri.dayNumber, Hijri.count]
    omega

def daysBefore (year : Int) (month : Nat) : Nat := ∑ k ∈ Ico 1 month, c.daysInMonth year k

@[simp] theorem daysBefore_one (year : Int) : c.daysBefore year 1 = 0 := rfl

theorem daysBefore_succ (year : Int) {month : Nat} (low : 1 ≤ month) :
    c.daysBefore year (month + 1) = c.daysBefore year month + c.daysInMonth year month :=
  sum_Ico_succ_top low _

theorem daysBefore_last (year : Int) : c.daysBefore year (monthsInYear + 1) = c.daysInYear year := by
  cases c with
  | gregorian =>
    simp only [daysBefore, daysInMonth, daysInYear, Gregorian.daysInMonth, Gregorian.daysInYear]
    by_cases leap : Gregorian.IsLeapYear year
    · simp only [leap]
      decide
    · simp only [leap]
      decide
  | hijri =>
    simp only [daysBefore, daysInMonth, daysInYear, Hijri.daysInMonth, Hijri.daysInYear]
    by_cases leap : Hijri.IsLeapYear year
    · simp only [leap]
      decide
    · simp only [leap]
      decide

/- The induction is on the month, with the day fixed: a step adds the length of the month that
ends. -/
theorem dayNumber_eq_daysBefore (year : Int) (day : Nat) {month : Nat} (low : 1 ≤ month)
    (high : month ≤ monthsInYear) :
    c.dayNumber ⟨year, month, day⟩ =
      c.dayNumber ⟨year, 1, 1⟩ + c.daysBefore year month + day - 1 := by
  induction month, low using Nat.le_induction with
  | base =>
    rw [dayNumber_day]
    simp
  | succ month low ih =>
    rw [c.dayNumber_next_month year day low high, ih (Nat.le_of_lt high), c.daysBefore_succ year low]
    omega

theorem dayNumber_new_year_of_le {first last : Int} (h : first ≤ last) :
    c.dayNumber ⟨last, 1, 1⟩ =
      c.dayNumber ⟨first, 1, 1⟩ + ∑ k ∈ Ico first last, (c.daysInYear k : Int) := by
  induction last, h using Int.leInduction with
  | base => simp
  | succ year h ih =>
    rw [dayNumber_next_year, ih, ← insert_Ico_right_eq_Ico_add_one h,
      sum_insert right_notMem_Ico]
    omega

/- One of the two sums is empty; which one depends on where the year lies. -/
theorem dayNumber_new_year (origin year : Int) :
    c.dayNumber ⟨year, 1, 1⟩ = c.dayNumber ⟨origin, 1, 1⟩
      + ∑ k ∈ Ico origin year, (c.daysInYear k : Int)
      - ∑ k ∈ Ico year origin, (c.daysInYear k : Int) := by
  rcases le_total origin year with forward | backward
  · have days := c.dayNumber_new_year_of_le forward
    rw [Ico_eq_empty_of_le forward, sum_empty, Int.sub_zero]
    exact days
  · have days := c.dayNumber_new_year_of_le backward
    rw [Ico_eq_empty_of_le backward, sum_empty]
    omega

theorem dayNumber_eq_days_from (origin year : Int) (day : Nat) {month : Nat} (low : 1 ≤ month)
    (high : month ≤ monthsInYear) :
    c.dayNumber ⟨year, month, day⟩ = c.dayNumber ⟨origin, 1, 1⟩
      + ∑ k ∈ Ico origin year, (c.daysInYear k : Int)
      - ∑ k ∈ Ico year origin, (c.daysInYear k : Int)
      + ∑ k ∈ Ico 1 month, (c.daysInMonth year k : Int) + day - 1 := by
  rw [c.dayNumber_eq_daysBefore year day low high, c.dayNumber_new_year origin year, daysBefore,
    Nat.cast_sum]

end Calendar

/-- The Gregorian closed form counts days from 1 January 2000 as the leap rule and the table of
months do, forwards and backwards. -/
theorem Gregorian.dayNumber_eq_days_from_2000 (year : Int) (month day : Nat) (low : 1 ≤ month)
    (high : month ≤ monthsInYear) :
    dayNumber ⟨year, month, day⟩ = dayOf2000
      + ∑ k ∈ Ico 2000 year, (daysInYear k : Int)
      - ∑ k ∈ Ico year 2000, (daysInYear k : Int)
      + ∑ k ∈ Ico 1 month, (daysInMonth year k : Int) + day - 1 := by
  have origin : Calendar.gregorian.dayNumber ⟨2000, 1, 1⟩ = dayOf2000 := by decide
  have days := Calendar.gregorian.dayNumber_eq_days_from 2000 year day low high
  rw [origin] at days
  exact days

/- The leap day of a century year, 2400 years before the origin. -/
theorem Gregorian.days_from_2000_at_leap_day :
    1 ≤ 2 ∧ 2 ≤ monthsInYear ∧
      dayNumber ⟨-400, 2, 29⟩ = dayOf2000
        + ∑ k ∈ Ico 2000 (-400), (daysInYear k : Int)
        - ∑ k ∈ Ico (-400) 2000, (daysInYear k : Int)
        + ∑ k ∈ Ico 1 2, (daysInMonth (-400) k : Int) + (29 : Nat) - 1 :=
  ⟨by decide, by decide, dayNumber_eq_days_from_2000 (-400) 2 29 (by decide) (by decide)⟩

/-- The Hijri closed form counts days from 1 Muharram of the year 1 as the leap predicate and the
alternating months do, forwards and backwards. -/
theorem Hijri.dayNumber_eq_days_from_epoch (year : Int) (month day : Nat) (low : 1 ≤ month)
    (high : month ≤ monthsInYear) :
    dayNumber ⟨year, month, day⟩ = epoch
      + ∑ k ∈ Ico 1 year, (daysInYear k : Int)
      - ∑ k ∈ Ico year 1, (daysInYear k : Int)
      + ∑ k ∈ Ico 1 month, (daysInMonth year k : Int) + day - 1 := by
  have origin : Calendar.hijri.dayNumber ⟨1, 1, 1⟩ = epoch := by decide
  have days := Calendar.hijri.dayNumber_eq_days_from 1 year day low high
  rw [origin] at days
  exact days

/- The leap day of the year -1, two years before the first. -/
theorem Hijri.days_from_epoch_at_leap_day :
    1 ≤ 12 ∧ 12 ≤ monthsInYear ∧
      dayNumber ⟨-1, 12, 30⟩ = epoch
        + ∑ k ∈ Ico 1 (-1), (daysInYear k : Int)
        - ∑ k ∈ Ico (-1) 1, (daysInYear k : Int)
        + ∑ k ∈ Ico 1 12, (daysInMonth (-1) k : Int) + (30 : Nat) - 1 :=
  ⟨by decide, by decide, dayNumber_eq_days_from_epoch (-1) 12 30 (by decide) (by decide)⟩

end Calendrics
