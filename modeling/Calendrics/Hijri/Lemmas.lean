import Calendrics.Hijri.Basic

/-! The Hijri decoder stays within the calendar: the day it finds lies in the year it finds, the
month is one of twelve, and the day of the month is one that the month has. -/
namespace Calendrics.Hijri

theorem isLeapYear_iff (year : Int) : IsLeapYear year ↔ (11 * year + 14) % 30 < 11 := Iff.rfl

theorem count_new_year (year : Int) :
    count year 1 1 = epoch + 354 * (year - 1) + leapDaysBefore year := by
  simp only [count, daysBeforeMonth, commonYear, shortMonth]
  omega

/-- A day lies in the year found for it, and in its last place only if the year is a leap year. -/
theorem dayFromMuharram_bounds (j : Int) :
    0 ≤ dayFromMuharram j ∧ dayFromMuharram j < daysInYear (yearOf j) := by
  have year_eq : yearOf j = (30 * (j - 1948440) + 10631 + 15) / 10631 := rfl
  have place : dayFromMuharram j =
      j - (1948440 + 354 * (yearOf j - 1) + (3 + 11 * yearOf j) / 30) := by
    simp only [dayFromMuharram, count_new_year, epoch, leapDaysBefore, cycleLeapYears, cycleYears]
  generalize dayFromMuharram j = p at *
  generalize yearOf j = y at *
  simp only [daysInYear, IsLeapYear, cycleLeapYears, cycleYears, commonYear]
  by_cases leap : (11 * y + 14) % 30 < 11
  · simp only [leap, if_true]
    omega
  · have same : (3 + 11 * y) / 30 = (11 * y + 14) / 30 := by omega
    simp only [leap, if_false]
    omega

theorem dayFromMuharram_nonneg (j : Int) : 0 ≤ dayFromMuharram j := (dayFromMuharram_bounds j).1

theorem daysInYear_le (year : Int) : daysInYear year ≤ 355 := by
  simp only [daysInYear, commonYear]
  split <;> omega

/-- The dividend of the month is not negative, so the division rounds down. -/
theorem monthOf_eq_div (j : Int) : monthOf j = (11 * dayFromMuharram j + 330) / 325 := by
  have low := dayFromMuharram_nonneg j
  exact Int.tdiv_eq_ediv_of_nonneg (by omega)

theorem monthOf_bounds (j : Int) : 1 ≤ monthOf j ∧ monthOf j ≤ 12 := by
  have low := dayFromMuharram_bounds j
  have high := daysInYear_le (yearOf j)
  rw [monthOf_eq_div]
  omega

theorem dayOf_eq (j : Int) :
    dayOf j = dayFromMuharram j - (29 * (monthOf j - 1) + monthOf j / 2) + 1 := by
  simp only [dayOf, dayFromMuharram, count, daysBeforeMonth, shortMonth]
  omega

theorem dayOf_bounds (j : Int) :
    1 ≤ dayOf j ∧ dayOf j ≤ daysInMonth (yearOf j) (monthOf j).toNat := by
  have place := dayFromMuharram_bounds j
  have month := monthOf_bounds j
  have month_eq := monthOf_eq_div j
  rw [dayOf_eq]
  simp only [daysInYear, commonYear] at place
  simp only [daysInMonth, longMonth, shortMonth, leapMonth]
  generalize dayFromMuharram j = p at *
  generalize monthOf j = m at *
  by_cases leap : IsLeapYear (yearOf j)
  · simp only [leap, if_true, and_true] at *
    split <;> omega
  · simp only [leap, if_false, and_false, or_false] at *
    split <;> omega

theorem dayNumber_ofDayNumber (j : Int) : dayNumber (ofDayNumber j) = j := by
  have month := monthOf_bounds j
  have day := dayOf_bounds j
  have month_cast : ((monthOf j).toNat : Int) = monthOf j := Int.toNat_of_nonneg (by omega)
  have day_cast : ((dayOf j).toNat : Int) = dayOf j := Int.toNat_of_nonneg (by omega)
  simp only [dayNumber, ofDayNumber, month_cast, day_cast]
  simp only [dayOf, count]
  omega

end Calendrics.Hijri
