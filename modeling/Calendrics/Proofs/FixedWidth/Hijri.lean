import Calendrics.Proofs.Codec
import Calendrics.Proofs.FixedWidth.Arithmetic
import Calendrics.Proofs.YearDay

/-! The Hijri closed forms in integers of a fixed width, step by step as the Gregorian ones. -/
namespace Calendrics.Hijri

open Checked

section Counting

variable (year month day : Checked .int64)

def Fixed.daysBeforeMonth : Checked .int64 := 29 * (month - 1) + month / 2

def Fixed.leapDaysBefore : Checked .int64 := (3 + 11 * year).floorDiv 30

def Fixed.count : Checked .int64 :=
  1948440 - 1 + 354 * (year - 1) + Fixed.leapDaysBefore year + Fixed.daysBeforeMonth month + day

variable {year month day} {y m d : Int}

theorem Fixed.yields_daysBeforeMonth (month_yields : month.Yields m) (range : 1 ≤ m ∧ m ≤ 12) :
    (Fixed.daysBeforeMonth month).Yields (Hijri.daysBeforeMonth m) := by
  have gone := month_yields.sub (yields_wide 1 (by omega)) (by omega)
  have lengths := (yields_wide 29 (by omega)).mul gone (by omega)
  have long_months := month_yields.div (yields_wide 2 (by omega)) (by omega) (by omega)
  exact lengths.add long_months (by omega)

theorem daysBeforeMonth_range (range : 1 ≤ m ∧ m ≤ 12) :
    0 ≤ daysBeforeMonth m ∧ daysBeforeMonth m ≤ 325 := by
  simp only [daysBeforeMonth, shortMonth]
  omega

theorem Fixed.yields_count (year_yields : year.Yields y) (month_yields : month.Yields m)
    (day_yields : day.Yields d) (year_range : Width.int32.Holds y) (month_range : 1 ≤ m ∧ m ≤ 12)
    (day_range : 0 ≤ d ∧ d ≤ 255) : (Fixed.count year month day).Yields (Hijri.count y m d) := by
  have years := Width.holds_int32.mp year_range
  have before := daysBeforeMonth_range month_range
  have months := Fixed.yields_daysBeforeMonth month_yields month_range
  have cycle_leap_days := (yields_wide 11 (by omega)).mul year_yields (by omega)
  have leap_days := ((yields_wide 3 (by omega)).add cycle_leap_days (by omega)).floorDiv
    (yields_wide 30 (by omega)) (by omega) (by omega)
  have epoch := (yields_wide 1948440 (by omega)).sub (yields_wide 1 (by omega)) (by omega)
  have gone := year_yields.sub (yields_wide 1 (by omega)) (by omega)
  have common_years := (yields_wide 354 (by omega)).mul gone (by omega)
  have start := epoch.add common_years (by omega)
  have new_year := start.add leap_days (by omega)
  exact (new_year.add months (by omega)).add day_yields (by omega)

end Counting

section Decoding

variable (x : Checked .int64)

def Fixed.yearOf : Checked .int64 := (30 * (x - 1948440) + 10631 + 15).floorDiv 10631

def Fixed.dayFromMuharram : Checked .int64 := x - Fixed.count (Fixed.yearOf x) 1 1

def Fixed.monthOf : Checked .int64 := (11 * Fixed.dayFromMuharram x + 330) / 325

def Fixed.dayOf : Checked .int64 := x - Fixed.count (Fixed.yearOf x) (Fixed.monthOf x) 1 + 1

variable {x} {j : DayNumber}

theorem yearOf_holds (j : DayNumber) : Width.int32.Holds (yearOf j.value) := by
  have bounds := yearOf_bounds j
  exact Width.holds_int32.mpr (by omega)

theorem dayFromMuharram_le (j : Int) : dayFromMuharram j ≤ 354 := by
  have place := dayFromMuharram_bounds j
  have whole := daysInYear_le (yearOf j)
  omega

theorem daysInMonth_le (year : Int) (month : Nat) : daysInMonth year month ≤ 30 := by
  rw [daysInMonth]
  split
  · decide
  · decide

theorem dayOf_le (j : Int) : dayOf j ≤ 30 := by
  have bounds := dayOf_bounds j
  have longest := daysInMonth_le (yearOf j) (monthOf j).toNat
  omega

theorem Fixed.yields_yearOf (day : x.Yields j.value) :
    (Fixed.yearOf x).Yields (Hijri.yearOf j.value) := by
  have range := j.inRange
  have year_eq : Hijri.yearOf j.value = (30 * (j.value - 1948440) + 10631 + 15) / 10631 := rfl
  simp only [InDayRange, leastDay, greatestDay] at range
  rw [year_eq]
  have since := day.sub (yields_wide 1948440 (by omega)) (by omega)
  have elapsed := (yields_wide 30 (by omega)).mul since (by omega)
  have shifted := (elapsed.add (yields_wide 10631 (by omega)) (by omega)).add
    (yields_wide 15 (by omega)) (by omega)
  exact shifted.floorDiv (yields_wide 10631 (by omega)) (by omega) (by omega)

theorem Fixed.yields_dayFromMuharram (day : x.Yields j.value) :
    (Fixed.dayFromMuharram x).Yields (Hijri.dayFromMuharram j.value) := by
  have low := dayFromMuharram_nonneg j.value
  have high := dayFromMuharram_le j.value
  have first := yields_wide 1 (by omega)
  have new_year := Fixed.yields_count (Fixed.yields_yearOf day) first first (yearOf_holds j)
    (by decide) (by decide)
  rw [Hijri.dayFromMuharram] at low high ⊢
  exact day.sub new_year ⟨Int.le_trans (by decide) low, Int.le_trans high (by decide)⟩

theorem Fixed.yields_monthOf (day : x.Yields j.value) :
    (Fixed.monthOf x).Yields (Hijri.monthOf j.value) := by
  have low := dayFromMuharram_nonneg j.value
  have high := dayFromMuharram_le j.value
  have place := Fixed.yields_dayFromMuharram day
  rw [monthOf_eq_div]
  have elevenths := (yields_wide 11 (by omega)).mul place (by omega)
  have shifted := elevenths.add (yields_wide 330 (by omega)) (by omega)
  exact shifted.div (yields_wide 325 (by omega)) (by omega) (by omega)

theorem Fixed.yields_dayOf (day : x.Yields j.value) :
    (Fixed.dayOf x).Yields (Hijri.dayOf j.value) := by
  have bounds := dayOf_bounds j.value
  have high := dayOf_le j.value
  have first := yields_wide 1 (by omega)
  have new_month : (Fixed.count (Fixed.yearOf x) (Fixed.monthOf x) 1).Yields
      (Hijri.count (Hijri.yearOf j.value) (Hijri.monthOf j.value) 1) :=
    Fixed.yields_count (Fixed.yields_yearOf day) (Fixed.yields_monthOf day) first
      (yearOf_holds j) (monthOf_bounds j.value) (by decide)
  rw [Hijri.dayOf] at bounds high ⊢
  exact (day.sub new_month (by omega)).add first (by omega)

end Decoding

section Encoding

def Fixed.dayNumber (year : Checked .int32) (month day : Checked .nat8) : Checked .int64 :=
  Fixed.count (year.cast .int64) (month.cast .int64) (day.cast .int64)

/-- The place of a date in its year, computed in 64 bits and kept in 16. -/
def Fixed.dayOfYear (t : Triple) : Checked .nat16 :=
  (Fixed.daysBeforeMonth ((ofInt t.month : Checked .nat8).cast .int64) +
    (ofInt t.day : Checked .nat8).cast .int64).cast .nat16

variable {t : Triple}

theorem Fixed.yields_dayNumber {year : Checked .int32} {month day : Checked .nat8}
    (year_yields : year.Yields t.year) (month_yields : month.Yields t.month)
    (day_yields : day.Yields t.day) (low : 1 ≤ t.month) (high : t.month ≤ monthsInYear) :
    (Fixed.dayNumber year month day).Yields (Hijri.dayNumber t) := by
  have year_range := Width.holds_int32.mp year_yields.holds
  have day_range := Width.holds_nat8.mp day_yields.holds
  simp only [monthsInYear] at high
  have year_wide := year_yields.cast (Width.holds_int64.mpr (by omega))
  have month_wide := month_yields.cast (Width.holds_int64.mpr (by omega))
  have day_wide := day_yields.cast (Width.holds_int64.mpr (by omega))
  exact Fixed.yields_count year_wide month_wide day_wide year_yields.holds (by omega) day_range

theorem Fixed.yields_dayOfYear (h : Calendar.hijri.Has t) :
    (Fixed.dayOfYear t).Yields (Hijri.dayOfYear t) := by
  have low := h.month_pos
  have high := h.month_le
  have day : t.day ≤ 30 := Nat.le_trans h.day_le (daysInMonth_le t.year t.month)
  simp only [monthsInYear] at high
  have before := daysBeforeMonth_range (m := t.month) (by omega)
  have small : ∀ {n : Nat}, n ≤ 30 → ((ofInt n : Checked .nat8).cast .int64).Yields n := by
    intro n least
    exact (yields_ofInt (Width.holds_nat8.mpr (by omega))).cast (Width.holds_int64.mpr (by omega))
  have months := Fixed.yields_daysBeforeMonth (small (by omega : t.month ≤ 30)) (by omega)
  have place := (months.add (small day) (by omega)).cast (Width.holds_nat16.mpr (by omega))
  -- The place in the year is a natural number; nothing is lost when it is taken from the sum.
  have same : (Hijri.dayOfYear t : Int) = Hijri.daysBeforeMonth t.month + t.day := by
    rw [Hijri.dayOfYear]
    omega
  rw [same]
  exact place

end Encoding

end Calendrics.Hijri
