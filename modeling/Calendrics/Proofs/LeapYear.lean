import Calendrics.Proofs.Acceptance
import Calendrics.Proofs.Cycle
import Calendrics.Proofs.NextDay

/-! The leap rule is told in many ways, and all tell the same: the lengths of the months, the length
of the year and the distance from one new year to the next on both calendars, and on the Hijri
calendar also the places of the leap years in a cycle and the years that are let have a last day.
Main statement: `leap_rules_agree`. -/
namespace Calendrics

open Finset

namespace Calendar

variable (c : Calendar) (year : Int)

theorem sum_daysInMonth :
    ∑ month ∈ Icc 1 monthsInYear, c.daysInMonth year month = c.daysInYear year := by
  rw [← Ico_add_one_right_eq_Icc]
  exact c.daysBefore_last year

theorem daysInYear_eq_distance :
    (c.daysInYear year : Int) = c.dayNumber ⟨year + 1, 1, 1⟩ - c.dayNumber ⟨year, 1, 1⟩ := by
  have next := c.dayNumber_next_year year 1
  omega

end Calendar

namespace Hijri

/-- The places of the leap years in a cycle. -/
def leapPlaces : List Int := [2, 5, 7, 10, 13, 16, 18, 21, 24, 26, 29]

theorem isLeapYear_of_place :
    ∀ place ∈ Ico (0 : Int) 30, IsLeapYear place ↔ place ∈ leapPlaces := by
  decide

variable (year : Int)

/- A year is as the year of its place in the cycle that begins with year zero. -/
theorem isLeapYear_iff_place : IsLeapYear year ↔ year % 30 ∈ leapPlaces := by
  have place : year % 30 ∈ Ico (0 : Int) 30 :=
    mem_Ico.mpr ⟨Int.emod_nonneg year (by decide), Int.emod_lt_of_pos year (by decide)⟩
  have cycles : IsLeapYear (year % 30 + 30 * (year / 30)) ↔ IsLeapYear (year % 30) :=
    Calendar.hijri.isLeapYear_add_cycles (year % 30) (year / 30)
  rw [Int.emod_add_mul_ediv] at cycles
  exact cycles.trans (isLeapYear_of_place _ place)

theorem daysInYear_eq_iff : daysInYear year = 355 ↔ IsLeapYear year :=
  (Calendar.hijri.isLeapYear_iff_daysInYear year).symm

theorem daysInMonth_leapMonth : daysInMonth year 12 = if IsLeapYear year then 30 else 29 := by
  simp [daysInMonth, leapMonth, longMonth, shortMonth]

theorem has_leap_day_iff : Calendar.hijri.Has ⟨year, 12, 30⟩ ↔ IsLeapYear year := by
  have length := daysInMonth_leapMonth year
  constructor
  · intro has
    have within : 30 ≤ daysInMonth year 12 := has.day_le
    by_contra common
    rw [length, if_neg common] at within
    omega
  · intro leap
    rw [if_pos leap] at length
    exact {
      month_pos := (by decide : 1 ≤ 12)
      month_le := Nat.le_refl monthsInYear
      day_pos := (by decide : 1 ≤ 30)
      day_le := Nat.le_of_eq length.symm }

/- A leap year may lack its last day all the same, where the range ends before it. -/
theorem leap_day_accepted_iff :
    (∃ d, Date.ofTriple .hijri ⟨year, 12, 30⟩ = .ok d) ↔
      IsLeapYear year ∧ InDayRange (dayNumber ⟨year, 12, 29⟩ + 1) := by
  have next_day : dayNumber ⟨year, 12, 30⟩ = dayNumber ⟨year, 12, 29⟩ + 1 := by
    simp only [dayNumber, count]
    omega
  rw [← next_day, ← has_leap_day_iff]
  constructor
  · rintro ⟨d, accepted⟩
    have valid := Date.ofTriple_isOk_iff.mp ⟨d, accepted, Date.triple_of_ofTriple accepted⟩
    exact ⟨valid.toHas, valid.inRange⟩
  · rintro ⟨has, range⟩
    obtain ⟨d, accepted, -⟩ := Date.ofTriple_isOk_iff.mpr ⟨has, range⟩
    exact ⟨d, accepted⟩

variable {year}

theorem new_year_after_leap_day {d : Date .hijri}
    (accepted : Date.ofTriple .hijri ⟨year, 12, 30⟩ = .ok d) :
    dayNumber ⟨year + 1, 1, 1⟩ = d.dayNumber.value + 1 := by
  have triple := Date.triple_of_ofTriple accepted
  have leap := (has_leap_day_iff year).mp (triple ▸ d.valid.toHas)
  have last : Calendar.hijri.daysInMonth year monthsInYear = 30 :=
    (daysInMonth_leapMonth year).trans (if_pos leap)
  have next := Calendar.hijri.dayNumber_after_last_day year
  rw [last] at next
  have day : d.dayNumber.value = dayNumber ⟨year, 12, 30⟩ := congrArg dayNumber triple
  rw [day]
  exact next

end Hijri

/-- On both calendars a year has the days of its twelve months, and as many lie between its new year
and the next. A Hijri year has 355 days exactly if it is a leap year, and is one exactly if its
place in the cycle is a leap place. Day 30 of its month 12 is accepted exactly if it is a leap year
and the day after day 29 has a number; day 30 is then the day before the next new year. -/
theorem leap_rules_agree :
    (∀ (c : Calendar) (year : Int),
      c.daysInYear year = ∑ month ∈ Icc 1 monthsInYear, c.daysInMonth year month ∧
      (c.daysInYear year : Int) = c.dayNumber ⟨year + 1, 1, 1⟩ - c.dayNumber ⟨year, 1, 1⟩) ∧
    ∀ year : Int,
      (Hijri.daysInYear year = 355 ↔ Hijri.IsLeapYear year) ∧
      (Hijri.IsLeapYear year ↔ year % 30 ∈ Hijri.leapPlaces) ∧
      ((∃ d, Date.ofTriple .hijri ⟨year, 12, 30⟩ = .ok d) ↔
        Hijri.IsLeapYear year ∧ InDayRange (Hijri.dayNumber ⟨year, 12, 29⟩ + 1)) ∧
      ∀ d, Date.ofTriple .hijri ⟨year, 12, 30⟩ = .ok d →
        Hijri.dayNumber ⟨year + 1, 1, 1⟩ = d.dayNumber.value + 1 := by
  constructor
  · intro c year
    exact ⟨(c.sum_daysInMonth year).symm, c.daysInYear_eq_distance year⟩
  · intro year
    exact ⟨Hijri.daysInYear_eq_iff year, Hijri.isLeapYear_iff_place year,
      Hijri.leap_day_accepted_iff year, fun _ => Hijri.new_year_after_leap_day⟩

/- The first year that ends in range, most of which has no day numbers. -/
theorem first_leap_day_in_range :
    let last : Date .hijri := Date.ofDayNumber .hijri ⟨-2147483485, by decide⟩
    Date.ofTriple .hijri ⟨-6065559, 12, 30⟩ = .ok last ∧
      Hijri.dayNumber ⟨-6065559 + 1, 1, 1⟩ = last.dayNumber.value + 1 := by
  intro last
  have accepted : Date.ofTriple .hijri ⟨-6065559, 12, 30⟩ = .ok last :=
    Date.ofTriple_eq_ok_iff.mpr (by decide)
  obtain ⟨-, -, -, new_year⟩ := leap_rules_agree.2 (-6065559)
  exact ⟨accepted, new_year last accepted⟩

end Calendrics
