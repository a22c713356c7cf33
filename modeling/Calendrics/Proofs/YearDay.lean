import Calendrics.Date
import Calendrics.Proofs.DayOrder

/-! The place of a date in its year counts the days of the months before it. So it is the distance
from the new year, which may itself be out of range; it lies in the year, and places of one year are
ordered as dates are. Main statement: `year_days_count_from_new_year`. -/
namespace Calendrics

open Finset

namespace Gregorian

theorem foldr_daysInMonth (year : Int) (first count day : Nat) :
    (List.range' first count).foldr (fun month days => daysInMonth year month + days) day =
      ∑ k ∈ Ico first (first + count), daysInMonth year k + day := by
  induction count generalizing first with
  | zero => simp
  | succ count ih =>
    have last : first + 1 + count = first + (count + 1) := by omega
    have some_month : first < first + (count + 1) := by omega
    rw [List.range'_succ, List.foldr_cons, ih (first + 1), last, sum_eq_sum_Ico_succ_bot some_month,
      Nat.add_assoc]

theorem dayOfYear_eq (t : Triple) (low : 1 ≤ t.month) :
    dayOfYear t = Calendar.gregorian.daysBefore t.year t.month + t.day := by
  have last : 1 + (t.month - 1) = t.month := by omega
  rw [dayOfYear, foldr_daysInMonth, last]
  rfl

end Gregorian

namespace Hijri

theorem daysBeforeMonth_succ (year : Int) {month : Nat} (high : month < monthsInYear) :
    daysBeforeMonth (month + 1 : Nat) = daysBeforeMonth month + daysInMonth year month := by
  have days := dayNumber_next_month year 1 high
  simp only [dayNumber, count] at days
  omega

theorem daysBeforeMonth_eq (year : Int) {month : Nat} (low : 1 ≤ month)
    (high : month ≤ monthsInYear) :
    daysBeforeMonth month = Calendar.hijri.daysBefore year month := by
  induction month, low using Nat.le_induction with
  | base => rfl
  | succ month low ih =>
    rw [daysBeforeMonth_succ year high, ih (Nat.le_of_lt high), Calendar.daysBefore_succ _ year low,
      Nat.cast_add]
    rfl

theorem dayOfYear_eq {t : Triple} (h : Calendar.hijri.Has t) :
    dayOfYear t = Calendar.hijri.daysBefore t.year t.month + t.day := by
  rw [dayOfYear, daysBeforeMonth_eq t.year h.month_pos h.month_le]
  omega

end Hijri

namespace Calendar

variable {c : Calendar} {a b t : Triple}

theorem dayOfYear_eq (h : c.Has t) : c.dayOfYear t = c.daysBefore t.year t.month + t.day := by
  cases c with
  | gregorian => exact Gregorian.dayOfYear_eq t h.month_pos
  | hijri => exact Hijri.dayOfYear_eq h

theorem one_le_dayOfYear (h : c.Has t) : 1 ≤ c.dayOfYear t := by
  rw [dayOfYear_eq h]
  exact Nat.le_add_left_of_le h.one_le_day

theorem dayOfYear_le (h : c.Has t) : c.dayOfYear t ≤ c.daysInYear t.year := by
  rw [dayOfYear_eq h, ← c.daysBefore_last]
  exact daysBefore_add_day_le h (Nat.lt_succ_of_le h.month_le)

theorem dayOfYear_eq_distance (h : c.Has t) :
    (c.dayOfYear t : Int) = c.dayNumber t - c.dayNumber ⟨t.year, 1, 1⟩ + 1 := by
  rw [dayOfYear_eq h, dayNumber_of_has h]
  omega

/- Dates of one year count from one new year, so their places differ as their day numbers do. -/
theorem compare_dayOfYear (ha : c.Has a) (hb : c.Has b) (same_year : a.year = b.year) :
    Ord.compare (c.dayOfYear a) (c.dayOfYear b) = a.compare b := by
  have place := dayOfYear_eq_distance ha
  have place' := dayOfYear_eq_distance hb
  rw [same_year] at place
  rw [← compare_dayNumber ha hb]
  rcases Nat.lt_trichotomy (c.dayOfYear a) (c.dayOfYear b) with before | equal | after
  · rw [Nat.compare_eq_lt.mpr before, Int.compare_eq_lt.mpr (by omega)]
  · rw [Nat.compare_eq_eq.mpr equal, Int.compare_eq_eq.mpr (by omega)]
  · rw [Nat.compare_eq_gt.mpr after, Int.compare_eq_gt.mpr (by omega)]

theorem daysInYear_le (c : Calendar) (year : Int) : c.daysInYear year ≤ 366 := by
  cases c with
  | gregorian =>
    simp only [daysInYear, Gregorian.daysInYear]
    split
    · decide
    · decide
  | hijri => exact Nat.le_trans (Hijri.daysInYear_le year) (by decide)

end Calendar

/-- The place of a date in its year is its distance from the new year, counted from 1, even where
the new year has no day number; it is at most the length of the year. Dates of one year are ordered
as their places. -/
theorem year_days_count_from_new_year (c : Calendar) :
    (∀ d : Date c,
      (d.dayOfYear : Int) = c.dayNumber d.triple - c.dayNumber ⟨d.triple.year, 1, 1⟩ + 1 ∧
      1 ≤ d.dayOfYear ∧ d.dayOfYear ≤ c.daysInYear d.triple.year) ∧
    ∀ a b : Date c, a.triple.year = b.triple.year →
      Ord.compare a.dayOfYear b.dayOfYear = a.compare b := by
  constructor
  · intro d
    have has := d.valid.toHas
    exact ⟨Calendar.dayOfYear_eq_distance has, Calendar.one_le_dayOfYear has,
      Calendar.dayOfYear_le has⟩
  · intro a b
    exact Calendar.compare_dayOfYear a.valid.toHas b.valid.toHas

/- The first date in range and the last of its year, whose new year is out of range. -/
theorem year_days_of_first_year :
    let first : Date .gregorian := Date.ofDayNumber .gregorian ⟨leastDay, by decide⟩
    let last : Date .gregorian := Date.ofDayNumber .gregorian ⟨-2147483418, by decide⟩
    first.triple.year = last.triple.year ∧ last.dayOfYear = 365 ∧
      ¬ InDayRange (Calendar.gregorian.dayNumber ⟨first.triple.year, 1, 1⟩) ∧
      Ord.compare first.dayOfYear last.dayOfYear = first.compare last := by
  intro first last
  have same_year : first.triple.year = last.triple.year := by decide
  exact ⟨same_year, by decide, by decide,
    (year_days_count_from_new_year .gregorian).2 first last same_year⟩

end Calendrics
