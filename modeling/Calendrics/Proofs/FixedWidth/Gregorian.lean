import Calendrics.Proofs.Codec
import Calendrics.Proofs.FixedWidth.Arithmetic
import Calendrics.Proofs.YearDay

/-! The Gregorian closed forms in integers of a fixed width. Each step is taken on checked numbers,
in the types and with the divisions that it has when the width is bounded, and yields what the
definition of the same name gives. -/
namespace Calendrics.Gregorian

open Checked

/-- What the decoder relies on when it divides toward zero: the remainders of its chain of divisions
are not negative, and the divisions round down. -/
structure RoundsDown (j : Int) : Prop where
  dayOfCentury : 0 ≤ dayOfCentury j ∧ dayOfCentury j ≤ 36524
  yearOfCentury : 0 ≤ yearOfCentury j ∧ yearOfCentury j ≤ 99
  dayFromMarch : 0 ≤ dayFromMarch j ∧ dayFromMarch j ≤ 365
  monthFromMarch : 0 ≤ monthFromMarch j ∧ monthFromMarch j ≤ 11
  year_division : (4 * Gregorian.dayOfCentury j + 3).tdiv 1461 =
    (4 * Gregorian.dayOfCentury j + 3) / 1461
  year_days_division : (1461 * Gregorian.yearOfCentury j).tdiv 4 =
    1461 * Gregorian.yearOfCentury j / 4
  month_division : (5 * Gregorian.dayFromMarch j + 2).tdiv 153 =
    (5 * Gregorian.dayFromMarch j + 2) / 153
  month_days_division : (153 * Gregorian.monthFromMarch j + 2).tdiv 5 =
    (153 * Gregorian.monthFromMarch j + 2) / 5
  new_year_division : (Gregorian.monthFromMarch j).tdiv 10 = Gregorian.monthFromMarch j / 10

theorem roundsDown (j : Int) : RoundsDown j := by
  have century := dayOfCentury_bounds j
  have year := yearOfCentury_bounds j
  have march := dayFromMarch_bounds j
  have month := monthFromMarch_bounds j
  constructor
  case dayOfCentury => exact century
  case yearOfCentury => exact year
  case dayFromMarch => exact march
  case monthFromMarch => exact month
  all_goals exact Int.tdiv_eq_ediv_of_nonneg (by omega)

section Decoding

variable (x : Checked .int64)

def Fixed.daysSinceStart : Checked .int64 := x + 32044

def Fixed.centuries : Checked .int64 := (4 * Fixed.daysSinceStart x + 3).floorDiv 146097

def Fixed.dayOfCentury : Checked .int64 :=
  Fixed.daysSinceStart x - (146097 * Fixed.centuries x).floorDiv 4

def Fixed.yearOfCentury : Checked .int64 := (4 * Fixed.dayOfCentury x + 3) / 1461

def Fixed.dayFromMarch : Checked .int64 := Fixed.dayOfCentury x - 1461 * Fixed.yearOfCentury x / 4

def Fixed.monthFromMarch : Checked .int64 := (5 * Fixed.dayFromMarch x + 2) / 153

def Fixed.yearOf : Checked .int64 :=
  100 * Fixed.centuries x + Fixed.yearOfCentury x - 4800 + Fixed.monthFromMarch x / 10

def Fixed.monthOf : Checked .int64 :=
  Fixed.monthFromMarch x + 3 - 12 * (Fixed.monthFromMarch x / 10)

def Fixed.dayOf : Checked .int64 := Fixed.dayFromMarch x - (153 * Fixed.monthFromMarch x + 2) / 5 + 1

variable {x} {j : Int}

theorem daysSinceStart_range (range : InDayRange j) :
    -2147451604 ≤ daysSinceStart j ∧ daysSinceStart j ≤ 2147515691 := by
  simp only [InDayRange, leastDay, greatestDay, daysSinceStart] at *
  omega

theorem centuries_range (range : InDayRange j) : -58797 ≤ centuries j ∧ centuries j ≤ 58797 := by
  have since := daysSinceStart_range range
  have bounds := centuries_bounds j
  omega

theorem Fixed.yields_daysSinceStart (day : x.Yields j) (range : InDayRange j) :
    (Fixed.daysSinceStart x).Yields (Gregorian.daysSinceStart j) := by
  simp only [InDayRange, leastDay, greatestDay] at range
  exact day.add (yields_wide 32044 (by omega)) (by omega)

theorem Fixed.yields_centuries (day : x.Yields j) (range : InDayRange j) :
    (Fixed.centuries x).Yields (Gregorian.centuries j) := by
  have bounds := daysSinceStart_range range
  have since := Fixed.yields_daysSinceStart day range
  have quarters := (yields_wide 4 (by omega)).mul since (by omega)
  have shifted := quarters.add (yields_wide 3 (by omega)) (by omega)
  exact shifted.floorDiv (yields_wide 146097 (by omega)) (by omega) (by omega)

theorem Fixed.yields_dayOfCentury (day : x.Yields j) (range : InDayRange j) :
    (Fixed.dayOfCentury x).Yields (Gregorian.dayOfCentury j) := by
  have since_bounds := daysSinceStart_range range
  have bounds := centuries_range range
  have since := Fixed.yields_daysSinceStart day range
  have centuries := Fixed.yields_centuries day range
  have quarters := (yields_wide 146097 (by omega)).mul centuries (by omega)
  have elapsed := quarters.floorDiv (yields_wide 4 (by omega)) (by omega) (by omega)
  exact since.sub elapsed (by omega)

theorem Fixed.yields_yearOfCentury (day : x.Yields j) (range : InDayRange j) :
    (Fixed.yearOfCentury x).Yields (Gregorian.yearOfCentury j) := by
  have bounds := dayOfCentury_bounds j
  have century := Fixed.yields_dayOfCentury day range
  rw [yearOfCentury_eq_div]
  have quarters := (yields_wide 4 (by omega)).mul century (by omega)
  have shifted := quarters.add (yields_wide 3 (by omega)) (by omega)
  exact shifted.div (yields_wide 1461 (by omega)) (by omega) (by omega)

theorem Fixed.yields_dayFromMarch (day : x.Yields j) (range : InDayRange j) :
    (Fixed.dayFromMarch x).Yields (Gregorian.dayFromMarch j) := by
  have century_bounds := dayOfCentury_bounds j
  have bounds := yearOfCentury_bounds j
  have century := Fixed.yields_dayOfCentury day range
  have year := Fixed.yields_yearOfCentury day range
  rw [Gregorian.dayFromMarch, (roundsDown j).year_days_division]
  have quarters := (yields_wide 1461 (by omega)).mul year (by omega)
  have elapsed := quarters.div (yields_wide 4 (by omega)) (by omega) (by omega)
  exact century.sub elapsed (by omega)

theorem Fixed.yields_monthFromMarch (day : x.Yields j) (range : InDayRange j) :
    (Fixed.monthFromMarch x).Yields (Gregorian.monthFromMarch j) := by
  have bounds := dayFromMarch_bounds j
  have march := Fixed.yields_dayFromMarch day range
  rw [monthFromMarch_eq_div]
  have fifths := (yields_wide 5 (by omega)).mul march (by omega)
  have shifted := fifths.add (yields_wide 2 (by omega)) (by omega)
  exact shifted.div (yields_wide 153 (by omega)) (by omega) (by omega)

theorem Fixed.yields_yearOf (day : x.Yields j) (range : InDayRange j) :
    (Fixed.yearOf x).Yields (Gregorian.yearOf j) := by
  have century_bounds := centuries_range range
  have year_bounds := yearOfCentury_bounds j
  have bounds := monthFromMarch_bounds j
  have centuries := Fixed.yields_centuries day range
  have year := Fixed.yields_yearOfCentury day range
  have month := Fixed.yields_monthFromMarch day range
  rw [yearOf_eq]
  have hundreds := (yields_wide 100 (by omega)).mul centuries (by omega)
  have years := (hundreds.add year (by omega)).sub (yields_wide 4800 (by omega)) (by omega)
  have turn := month.div (yields_wide 10 (by omega)) (by omega) (by omega)
  exact years.add turn (by omega)

theorem Fixed.yields_monthOf (day : x.Yields j) (range : InDayRange j) :
    (Fixed.monthOf x).Yields (Gregorian.monthOf j) := by
  have bounds := monthFromMarch_bounds j
  have month := Fixed.yields_monthFromMarch day range
  rw [monthOf_eq]
  have turn := month.div (yields_wide 10 (by omega)) (by omega) (by omega)
  have turned := (yields_wide 12 (by omega)).mul turn (by omega)
  exact (month.add (yields_wide 3 (by omega)) (by omega)).sub turned (by omega)

theorem Fixed.yields_dayOf (day : x.Yields j) (range : InDayRange j) :
    (Fixed.dayOf x).Yields (Gregorian.dayOf j) := by
  have march_bounds := dayFromMarch_bounds j
  have bounds := monthFromMarch_bounds j
  have march := Fixed.yields_dayFromMarch day range
  have month := Fixed.yields_monthFromMarch day range
  rw [dayOf_eq]
  have fifths := (yields_wide 153 (by omega)).mul month (by omega)
  have shifted := fifths.add (yields_wide 2 (by omega)) (by omega)
  have elapsed := shifted.div (yields_wide 5 (by omega)) (by omega) (by omega)
  exact (march.sub elapsed (by omega)).add (yields_wide 1 (by omega)) (by omega)

end Decoding

section Encoding

/-- The day number of a date, in 64 bits; the turn of the year is still computed in 8 bits. -/
def Fixed.dayNumber (year : Checked .int32) (month day : Checked .nat8) : Checked .int64 :=
  let back := ((14 - month) / 12).cast .int64
  let year := year.cast .int64 + 4800 - back
  let month := month.cast .int64 + 12 * back - 3
  day.cast .int64 + (153 * month + 2) / 5 + 365 * year + year.floorDiv 4 - year.floorDiv 100 +
    year.floorDiv 400 - 32045

/-- The place of a date in its year, in 16 bits: a running total of lengths of 8 bits. -/
def Fixed.dayOfYear (t : Triple) : Checked .nat16 :=
  (List.range' 1 (t.month - 1)).foldl
    (fun days month => days + (ofInt (daysInMonth t.year month) : Checked .nat8).cast .nat16) 0 +
      (ofInt t.day : Checked .nat8).cast .nat16

theorem Fixed.yields_dayNumber {t : Triple} {year : Checked .int32} {month day : Checked .nat8}
    (year_yields : year.Yields t.year) (month_yields : month.Yields t.month)
    (day_yields : day.Yields t.day) (low : 1 ≤ t.month) (high : t.month ≤ monthsInYear) :
    (Fixed.dayNumber year month day).Yields (Gregorian.dayNumber t) := by
  have year_range := Width.holds_int32.mp year_yields.holds
  have day_range := Width.holds_nat8.mp day_yields.holds
  simp only [monthsInYear] at high
  -- In 8 bits the difference is a number only because the month is at most 14.
  have turn : (((14 - month) / 12).cast .int64).Yields (yearsBack t.month) := by
    have within : Width.nat8.Holds (14 - t.month) := Width.holds_nat8.mpr (by omega)
    have difference := (yields_literal 14 (by decide)).apply month_yields within
    have quotient := difference.div (yields_literal 12 (by decide)) (by omega) (by omega)
    exact quotient.cast (Width.holds_int64.mpr (by omega))
  have turn_range : 0 ≤ yearsBack t.month ∧ yearsBack t.month ≤ 1 := by
    rw [yearsBack]
    omega
  have year_wide := year_yields.cast (Width.holds_int64.mpr (by omega))
  have month_wide := month_yields.cast (Width.holds_int64.mpr (by omega))
  have day_wide := day_yields.cast (Width.holds_int64.mpr (by omega))
  have from_march : 0 ≤ (t.month : Int) + 12 * yearsBack t.month - 3 := by
    rw [yearsBack]
    omega
  have march_year := (year_wide.add (yields_wide 4800 (by omega)) (by omega)).sub turn (by omega)
  have march_month := (month_wide.add ((yields_wide 12 (by omega)).mul turn (by omega))
    (by omega)).sub (yields_wide 3 (by omega)) (by omega)
  have fifths := (yields_wide 153 (by omega)).mul march_month (by omega)
  have shifted := fifths.add (yields_wide 2 (by omega)) (by omega)
  have months := shifted.div (yields_wide 5 (by omega)) (by omega) (by omega)
  have common_years := (yields_wide 365 (by omega)).mul march_year (by omega)
  have years := (day_wide.add months (by omega)).add common_years (by omega)
  have leap_years := march_year.floorDiv (yields_wide 4 (by omega)) (by omega) (by omega)
  have centuries := march_year.floorDiv (yields_wide 100 (by omega)) (by omega) (by omega)
  have leap_centuries := march_year.floorDiv (yields_wide 400 (by omega)) (by omega) (by omega)
  have leap_days := ((years.add leap_years (by omega)).sub centuries (by omega)).add
    leap_centuries (by omega)
  exact leap_days.sub (yields_wide 32045 (by omega)) (by omega)

theorem Fixed.yields_dayOfYear {t : Triple} (h : Calendar.gregorian.Has t) :
    (Fixed.dayOfYear t).Yields (Gregorian.dayOfYear t) := by
  have small : ∀ {n : Nat}, n ≤ 31 → ((ofInt n : Checked .nat8).cast .nat16).Yields n := by
    intro n low
    exact (yields_ofInt (Width.holds_nat8.mpr (by omega))).cast (Width.holds_nat16.mpr (by omega))
  have lengths : ∀ month ∈ List.range' 1 (t.month - 1), daysInMonth t.year month ≤ 31 := by
    intro month gone
    have between := List.mem_range'_1.mp gone
    have last := h.month_le
    exact Calendar.gregorian.daysInMonth_le t.year between.1 (by omega)
  have day : t.day ≤ 31 :=
    Nat.le_trans h.day_le (Calendar.gregorian.daysInMonth_le t.year h.month_pos h.month_le)
  -- Every partial total is at most the whole, and the whole is a place in the year.
  have whole := Nat.le_trans (Calendar.dayOfYear_le h) (Calendar.gregorian.daysInYear_le t.year)
  have fits : 0 + Gregorian.dayOfYear t ≤ 65535 := by
    rw [Nat.zero_add]
    exact Nat.le_trans whole (by decide)
  have total := (yields_literal 0 (by decide)).total (fun month gone => small (lengths month gone))
    (small day) fits
  rw [Nat.zero_add] at total
  exact total

end Encoding

end Calendrics.Gregorian
