import Calendrics.Gregorian.Basic

/-! The Gregorian decoder stays within the calendar. Each remainder of its chain of divisions is
bounded, so the divisions round down and the month and day that come out exist; the leap day comes
out in leap years only. -/
namespace Calendrics.Gregorian

theorem isLeapYear_iff_dvd (year : Int) :
    IsLeapYear year ↔ (4 ∣ year ∧ ¬ 100 ∣ year) ∨ 400 ∣ year := by
  simp only [IsLeapYear, Int.dvd_iff_tmod_eq_zero, ne_eq]

/-- A century has 36524 days, and every fourth one day more. -/
theorem days_of_centuries (b : Int) : 146097 * b / 4 = 36524 * b + b / 4 := by
  have split : 146097 * b = b + 4 * (36524 * b) := by omega
  rw [split, Int.add_mul_ediv_left _ _ (by decide), Int.add_comm]

theorem days_of_years (d : Int) : 1461 * d / 4 = 365 * d + d / 4 := by
  have split : 1461 * d = d + 4 * (365 * d) := by omega
  rw [split, Int.add_mul_ediv_left _ _ (by decide), Int.add_comm]

theorem centuries_bounds (j : Int) :
    146097 * centuries j ≤ 4 * daysSinceStart j + 3 ∧
      4 * daysSinceStart j + 3 < 146097 * centuries j + 146097 := by
  simp only [centuries]
  omega

theorem dayOfCentury_bounds (j : Int) : 0 ≤ dayOfCentury j ∧ dayOfCentury j ≤ 36524 := by
  have bounds := centuries_bounds j
  simp only [dayOfCentury]
  omega

/-- The last day of a century comes only at the end of the fourth. -/
theorem centuries_of_last_day {j : Int} (h : dayOfCentury j = 36524) : centuries j % 4 = 3 := by
  have bounds := centuries_bounds j
  simp only [dayOfCentury, days_of_centuries] at h
  omega

theorem yearOfCentury_eq_div (j : Int) : yearOfCentury j = (4 * dayOfCentury j + 3) / 1461 := by
  have low := (dayOfCentury_bounds j).1
  exact Int.tdiv_eq_ediv_of_nonneg (by omega)

theorem yearOfCentury_bounds (j : Int) : 0 ≤ yearOfCentury j ∧ yearOfCentury j ≤ 99 := by
  have bounds := dayOfCentury_bounds j
  rw [yearOfCentury_eq_div]
  omega

theorem dayFromMarch_eq (j : Int) :
    dayFromMarch j = dayOfCentury j - (365 * yearOfCentury j + yearOfCentury j / 4) := by
  have low := (yearOfCentury_bounds j).1
  rw [dayFromMarch, Int.tdiv_eq_ediv_of_nonneg (by omega), days_of_years]

theorem dayFromMarch_bounds (j : Int) : 0 ≤ dayFromMarch j ∧ dayFromMarch j ≤ 365 := by
  have low := (dayOfCentury_bounds j).1
  rw [dayFromMarch_eq, yearOfCentury_eq_div]
  omega

theorem monthFromMarch_eq_div (j : Int) : monthFromMarch j = (5 * dayFromMarch j + 2) / 153 := by
  have low := (dayFromMarch_bounds j).1
  exact Int.tdiv_eq_ediv_of_nonneg (by omega)

theorem monthFromMarch_bounds (j : Int) : 0 ≤ monthFromMarch j ∧ monthFromMarch j ≤ 11 := by
  have bounds := dayFromMarch_bounds j
  rw [monthFromMarch_eq_div]
  omega

theorem monthOf_eq (j : Int) : monthOf j = monthFromMarch j + 3 - 12 * (monthFromMarch j / 10) := by
  have low := (monthFromMarch_bounds j).1
  rw [monthOf, Int.tdiv_eq_ediv_of_nonneg low]

theorem monthOf_bounds (j : Int) : 1 ≤ monthOf j ∧ monthOf j ≤ 12 := by
  have bounds := monthFromMarch_bounds j
  rw [monthOf_eq]
  omega

theorem yearOf_eq (j : Int) :
    yearOf j = 100 * centuries j + yearOfCentury j - 4800 + monthFromMarch j / 10 := by
  have low := (monthFromMarch_bounds j).1
  rw [yearOf, Int.tdiv_eq_ediv_of_nonneg low]

theorem dayOf_eq (j : Int) : dayOf j = dayFromMarch j - (153 * monthFromMarch j + 2) / 5 + 1 := by
  have low := (monthFromMarch_bounds j).1
  rw [dayOf, Int.tdiv_eq_ediv_of_nonneg (by omega)]

/-- A 366th day after 1 March is the 29th of February of a leap year. -/
theorem isLeapYear_of_dayFromMarch {j : Int} (h : dayFromMarch j = 365) :
    IsLeapYear (yearOf j) := by
  have century := centuries_of_last_day (j := j)
  have bounds := yearOfCentury_bounds j
  have year_eq := yearOfCentury_eq_div j
  have march := dayFromMarch_eq j
  have month_eq := monthFromMarch_eq_div j
  rw [isLeapYear_iff_dvd, yearOf_eq, month_eq, h]
  generalize dayOfCentury j = c at *
  generalize yearOfCentury j = d at *
  generalize centuries j = b at *
  have fourth : d % 4 = 3 := by omega
  by_cases last : d = 99
  · have whole : b % 4 = 3 := century (by omega)
    omega
  · omega

theorem dayOf_bounds (j : Int) :
    1 ≤ dayOf j ∧ dayOf j ≤ daysInMonth (yearOf j) (monthOf j).toNat := by
  have march := dayFromMarch_bounds j
  have month := monthFromMarch_bounds j
  have month_eq := monthFromMarch_eq_div j
  have leap := isLeapYear_of_dayFromMarch (j := j)
  rw [dayOf_eq, monthOf_eq]
  generalize dayFromMarch j = e at *
  generalize monthFromMarch j = m at *
  have cases_of_month : m = 0 ∨ m = 1 ∨ m = 2 ∨ m = 3 ∨ m = 4 ∨ m = 5 ∨ m = 6 ∨ m = 7 ∨
      m = 8 ∨ m = 9 ∨ m = 10 ∨ m = 11 := by omega
  rcases cases_of_month with h | h | h | h | h | h | h | h | h | h | h | h
  case inr.inr.inr.inr.inr.inr.inr.inr.inr.inr.inr =>
    by_cases hl : IsLeapYear (yearOf j)
    · simp [daysInMonth, february, leapFebruary, h, hl]
      omega
    · have short : e ≠ 365 := fun he => hl (leap he)
      simp [daysInMonth, february, commonMonths, h, hl]
      omega
  all_goals
    simp [daysInMonth, february, commonMonths, h]
    omega

/-- Decoding and encoding again gives the same day, in range or not. -/
theorem dayNumber_ofDayNumber (j : Int) : dayNumber (ofDayNumber j) = j := by
  have month := monthOf_bounds j
  have day := dayOf_bounds j
  have month_cast : ((monthOf j).toNat : Int) = monthOf j := Int.toNat_of_nonneg (by omega)
  have day_cast : ((dayOf j).toNat : Int) = dayOf j := Int.toNat_of_nonneg (by omega)
  have from_march := monthFromMarch_bounds j
  have of_century := yearOfCentury_bounds j
  have back : yearsBack (monthOf j) = monthFromMarch j / 10 := by
    rw [yearsBack, monthOf_eq]
    omega
  have march := dayFromMarch_eq j
  have century : dayOfCentury j = j + 32044 - (36524 * centuries j + centuries j / 4) := by
    rw [dayOfCentury, daysSinceStart, days_of_centuries]
  have year_eq : yearOf j + 4800 - monthFromMarch j / 10 = 100 * centuries j + yearOfCentury j := by
    rw [yearOf_eq]
    omega
  have month_eq : monthOf j + 12 * (monthFromMarch j / 10) - 3 = monthFromMarch j := by
    rw [monthOf_eq]
    omega
  simp only [dayNumber, ofDayNumber, month_cast, day_cast, back, year_eq, month_eq]
  rw [dayOf_eq]
  omega

end Calendrics.Gregorian
