import Calendrics.Proofs.DayCount

/-! Day numbers are ordered as dates are. The days of a month lie before the next month, and the
days of a year before the next year, so the order by year, month and day is the order of day
numbers. Main statements: `Calendar.compare_dayNumber`, and from it
`Calendar.dayNumber_injective`. -/
namespace Calendrics

open Finset

namespace Triple

variable {a b : Triple}

theorem compare_eq_lt : a.compare b = .lt ↔
    a.year < b.year ∨
      a.year = b.year ∧ (a.month < b.month ∨ a.month = b.month ∧ a.day < b.day) := by
  simp only [compare, Ordering.then_eq_lt, Int.compare_eq_lt, Int.compare_eq_eq,
    Nat.compare_eq_lt, Nat.compare_eq_eq]

theorem compare_eq_eq : a.compare b = .eq ↔ a = b := by
  simp only [compare, Ordering.then_eq_eq, Int.compare_eq_eq, Nat.compare_eq_eq]
  constructor
  · rintro ⟨years, months, days⟩
    exact ext years months days
  · rintro rfl
    exact ⟨rfl, rfl, rfl⟩

theorem compare_swap (a b : Triple) : (a.compare b).swap = b.compare a := by
  simp only [compare, Ordering.swap_then, Int.compare_swap, Nat.compare_swap]

end Triple

namespace Calendar

variable {c : Calendar} {a b t : Triple}

theorem Has.one_le_day (h : c.Has t) : 1 ≤ t.day := h.day_pos

theorem daysBefore_mono (c : Calendar) (year : Int) {month later : Nat} (h : month ≤ later) :
    c.daysBefore year month ≤ c.daysBefore year later :=
  sum_le_sum_of_subset (Ico_subset_Ico_right h)

theorem daysBefore_add_day_le (h : c.Has t) {month : Nat} (later : t.month < month) :
    c.daysBefore t.year t.month + t.day ≤ c.daysBefore t.year month :=
  calc c.daysBefore t.year t.month + t.day
      ≤ c.daysBefore t.year t.month + c.daysInMonth t.year t.month := Nat.add_le_add_left h.day_le _
    _ = c.daysBefore t.year (t.month + 1) := (c.daysBefore_succ t.year h.month_pos).symm
    _ ≤ c.daysBefore t.year month := c.daysBefore_mono t.year later

theorem dayNumber_of_has (h : c.Has t) :
    c.dayNumber t = c.dayNumber ⟨t.year, 1, 1⟩ + c.daysBefore t.year t.month + t.day - 1 :=
  c.dayNumber_eq_daysBefore t.year t.day h.month_pos h.month_le

theorem new_year_le_dayNumber (h : c.Has t) : c.dayNumber ⟨t.year, 1, 1⟩ ≤ c.dayNumber t := by
  have place := dayNumber_of_has h
  have day := h.one_le_day
  omega

theorem dayNumber_lt_next_new_year (h : c.Has t) :
    c.dayNumber t < c.dayNumber ⟨t.year + 1, 1, 1⟩ := by
  have place := dayNumber_of_has h
  have next := c.dayNumber_next_year t.year 1
  have within := daysBefore_add_day_le h (Nat.lt_succ_of_le h.month_le)
  rw [Nat.succ_eq_add_one, daysBefore_last] at within
  omega

theorem new_year_mono (c : Calendar) {year later : Int} (h : year ≤ later) :
    c.dayNumber ⟨year, 1, 1⟩ ≤ c.dayNumber ⟨later, 1, 1⟩ := by
  rw [c.dayNumber_new_year_of_le h]
  have days : 0 ≤ ∑ k ∈ Ico year later, (c.daysInYear k : Int) :=
    sum_nonneg fun k _ => Int.natCast_nonneg _
  omega

/- The first component in which the triples differ decides: years by whole years, months by whole
months, and days by one day each. -/
theorem dayNumber_lt_of_compare (ha : c.Has a) (hb : c.Has b) (h : a.compare b = .lt) :
    c.dayNumber a < c.dayNumber b := by
  rcases Triple.compare_eq_lt.mp h with years | ⟨year, months | ⟨month, days⟩⟩
  · calc c.dayNumber a
        < c.dayNumber ⟨a.year + 1, 1, 1⟩ := dayNumber_lt_next_new_year ha
      _ ≤ c.dayNumber ⟨b.year, 1, 1⟩ := c.new_year_mono years
      _ ≤ c.dayNumber b := new_year_le_dayNumber hb
  · have within := daysBefore_add_day_le ha months
    have day := hb.one_le_day
    rw [dayNumber_of_has ha, dayNumber_of_has hb, ← year]
    omega
  · rw [dayNumber_of_has ha, dayNumber_of_has hb, ← year, ← month]
    omega

theorem compare_dayNumber (ha : c.Has a) (hb : c.Has b) :
    Ord.compare (c.dayNumber a) (c.dayNumber b) = a.compare b := by
  cases h : a.compare b with
  | lt => exact Int.compare_eq_lt.mpr (dayNumber_lt_of_compare ha hb h)
  | eq => exact Int.compare_eq_eq.mpr (congrArg c.dayNumber (Triple.compare_eq_eq.mp h))
  | gt =>
    have back : b.compare a = .lt := by
      rw [← Triple.compare_swap, h]
      rfl
    exact Int.compare_eq_gt.mpr (dayNumber_lt_of_compare hb ha back)

theorem dayNumber_injective (ha : c.Has a) (hb : c.Has b) (h : c.dayNumber a = c.dayNumber b) :
    a = b := by
  apply Triple.compare_eq_eq.mp
  rw [← compare_dayNumber ha hb]
  exact Int.compare_eq_eq.mpr h

end Calendar

end Calendrics
