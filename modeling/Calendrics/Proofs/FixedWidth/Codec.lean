import Calendrics.Proofs.FixedWidth.Gregorian
import Calendrics.Proofs.FixedWidth.Hijri

/-! The codecs keep to their types. In integers of a fixed width no step of a decoder or an encoder
overflows and no cast loses anything, so the results are those of the closed forms over all
integers. Main statement: `codecs_keep_to_their_types`. -/
namespace Calendrics

open Checked (ofInt yields_ofInt)

structure Fields where
  year : Checked .int32
  month : Checked .nat8
  day : Checked .nat8

namespace Fields

def ofTriple (t : Triple) : Fields := ⟨ofInt t.year, ofInt t.month, ofInt t.day⟩

/-- Numbers computed in 64 bits, cast to the types of the fields. There must be a month of the
number. -/
def narrow (year month day : Checked .int64) : Fields where
  year := year.cast .int32
  month := (month.cast .nat8).require fun m => 1 ≤ m ∧ m ≤ monthsInYear
  day := day.cast .nat8

structure Yield (f : Fields) (t : Triple) : Prop where
  year : f.year.Yields t.year
  month : f.month.Yields t.month
  day : f.day.Yields t.day

theorem yield_ofTriple {t : Triple} (fits : t.Fits) : (ofTriple t).Yield t := by
  obtain ⟨low, high, month, day⟩ := fits
  constructor
  · exact yields_ofInt (Width.holds_int32.mpr (by omega))
  · exact yields_ofInt (Width.holds_nat8.mpr (by omega))
  · exact yields_ofInt (Width.holds_nat8.mpr (by omega))

theorem yield_narrow {year month day : Checked .int64} {t : Triple} (year_yields : year.Yields t.year)
    (month_yields : month.Yields t.month) (day_yields : day.Yields t.day) (fits : t.Fits)
    (is_month : 1 ≤ t.month ∧ t.month ≤ monthsInYear) : (narrow year month day).Yield t := by
  have fields := yield_ofTriple fits
  constructor
  · exact year_yields.cast fields.year.holds
  · exact (month_yields.cast fields.month.holds).require
      (p := fun m => 1 ≤ m ∧ m ≤ monthsInYear) (by omega)
  · exact day_yields.cast fields.day.holds

end Fields

namespace Calendar

/-- The fields of the date of a day number: decoded in 64 bits, then narrowed. -/
def fieldsOfDay (c : Calendar) (x : Checked .int32) : Fields :=
  let wide := x.cast .int64
  match c with
  | gregorian =>
    .narrow (Gregorian.Fixed.yearOf wide) (Gregorian.Fixed.monthOf wide)
      (Gregorian.Fixed.dayOf wide)
  | hijri => .narrow (Hijri.Fixed.yearOf wide) (Hijri.Fixed.monthOf wide) (Hijri.Fixed.dayOf wide)

def wideDayNumber (c : Calendar) (f : Fields) : Checked .int64 :=
  match c with
  | gregorian => Gregorian.Fixed.dayNumber f.year f.month f.day
  | hijri => Hijri.Fixed.dayNumber f.year f.month f.day

/-- The day number of the fields of a date; it must be one of the type it is cast to. -/
def dayOfFields (c : Calendar) (f : Fields) : Checked .int32 :=
  ((c.wideDayNumber f).require Width.int32.Holds).cast .int32

def narrowDayOfYear : Calendar → Triple → Checked .nat16
  | gregorian => Gregorian.Fixed.dayOfYear
  | hijri => Hijri.Fixed.dayOfYear

def longestMonth : Calendar → Nat
  | gregorian => 31
  | hijri => 30

variable {c : Calendar}

theorem daysInMonth_le_longestMonth (c : Calendar) (year : Int) {month : Nat} (low : 1 ≤ month)
    (high : month ≤ monthsInYear) : c.daysInMonth year month ≤ c.longestMonth := by
  cases c with
  | gregorian => exact gregorian.daysInMonth_le year low high
  | hijri => exact Hijri.daysInMonth_le year month

theorem yield_fieldsOfDay (c : Calendar) (j : DayNumber) :
    (c.fieldsOfDay (ofInt j.value)).Yield (c.ofDayNumber j.value) := by
  have holds : Width.int32.Holds j.value := j.inRange
  have wide_holds : Width.int64.Holds j.value := by
    rw [Width.holds_int32] at holds
    rw [Width.holds_int64]
    omega
  have wide := (yields_ofInt holds).cast wide_holds
  have has := c.has_ofDayNumber j.value
  have fits := c.fits_ofDayNumber j
  cases c with
  | gregorian =>
    have month := Gregorian.monthOf_bounds j.value
    have day := Gregorian.dayOf_bounds j.value
    have month_cast : ((Gregorian.monthOf j.value).toNat : Int) = _ :=
      Int.toNat_of_nonneg (by omega)
    have day_cast : ((Gregorian.dayOf j.value).toNat : Int) = _ := Int.toNat_of_nonneg (by omega)
    apply Fields.yield_narrow
    · exact Gregorian.Fixed.yields_yearOf wide j.inRange
    · exact month_cast ▸ Gregorian.Fixed.yields_monthOf wide j.inRange
    · exact day_cast ▸ Gregorian.Fixed.yields_dayOf wide j.inRange
    · exact fits
    · exact ⟨has.month_pos, has.month_le⟩
  | hijri =>
    have month := Hijri.monthOf_bounds j.value
    have day := Hijri.dayOf_bounds j.value
    have month_cast : ((Hijri.monthOf j.value).toNat : Int) = _ := Int.toNat_of_nonneg (by omega)
    have day_cast : ((Hijri.dayOf j.value).toNat : Int) = _ := Int.toNat_of_nonneg (by omega)
    apply Fields.yield_narrow
    · exact Hijri.Fixed.yields_yearOf wide
    · exact month_cast ▸ Hijri.Fixed.yields_monthOf wide
    · exact day_cast ▸ Hijri.Fixed.yields_dayOf wide
    · exact fits
    · exact ⟨has.month_pos, has.month_le⟩

theorem yields_wideDayNumber {f : Fields} {t : Triple} (fields : f.Yield t) (low : 1 ≤ t.month)
    (high : t.month ≤ monthsInYear) : (c.wideDayNumber f).Yields (c.dayNumber t) := by
  cases c with
  | gregorian =>
    exact Gregorian.Fixed.yields_dayNumber fields.year fields.month fields.day low high
  | hijri => exact Hijri.Fixed.yields_dayNumber fields.year fields.month fields.day low high

theorem yields_dayOfFields (d : Date c) :
    (c.dayOfFields (.ofTriple d.triple)).Yields d.dayNumber.value := by
  have wide : (c.wideDayNumber (.ofTriple d.triple)).Yields d.dayNumber.value :=
    yields_wideDayNumber (Fields.yield_ofTriple d.fits) d.valid.month_pos d.valid.month_le
  have holds : Width.int32.Holds d.dayNumber.value := d.dayNumber.inRange
  exact (wide.require holds).cast holds

theorem yields_narrowDayOfYear {t : Triple} (h : c.Has t) :
    (c.narrowDayOfYear t).Yields (c.dayOfYear t) := by
  cases c with
  | gregorian => exact Gregorian.Fixed.yields_dayOfYear h
  | hijri => exact Hijri.Fixed.yields_dayOfYear h

end Calendar

/-- Decoding a day number keeps the remainders of its divisions in bounds and yields the date of the
day in the types of its fields, with a month and a day that there are. Encoding any month of any
year, on any day that its field holds, yields the day number in 64 bits. The day number of a date is
narrowed, and its place in the year computed, without loss. -/
theorem codecs_keep_to_their_types :
    (∀ j : DayNumber, Gregorian.RoundsDown j.value ∧
      0 ≤ Hijri.dayFromMuharram j.value ∧ Hijri.dayFromMuharram j.value ≤ 354 ∧
      ∀ c : Calendar, (c.fieldsOfDay (ofInt j.value)).Yield (c.ofDayNumber j.value) ∧
        1 ≤ (c.ofDayNumber j.value).month ∧ (c.ofDayNumber j.value).month ≤ 12 ∧
        1 ≤ (c.ofDayNumber j.value).day ∧ (c.ofDayNumber j.value).day ≤ c.longestMonth) ∧
    (∀ (c : Calendar) (t : Triple), t.Fits → 1 ≤ t.month → t.month ≤ monthsInYear →
      (c.wideDayNumber (.ofTriple t)).Yields (c.dayNumber t)) ∧
    ∀ (c : Calendar) (d : Date c),
      (c.dayOfFields (.ofTriple d.triple)).Yields d.dayNumber.value ∧
        (c.narrowDayOfYear d.triple).Yields d.dayOfYear := by
  refine ⟨?_, ?_, ?_⟩
  · intro j
    refine ⟨Gregorian.roundsDown j.value, Hijri.dayFromMuharram_nonneg j.value,
      Hijri.dayFromMuharram_le j.value, ?_⟩
    intro c
    have has := c.has_ofDayNumber j.value
    have longest := c.daysInMonth_le_longestMonth (c.ofDayNumber j.value).year has.month_pos
      has.month_le
    exact ⟨c.yield_fieldsOfDay j, has.month_pos, has.month_le, has.day_pos,
      Nat.le_trans has.day_le longest⟩
  · intro c t fits low high
    exact Calendar.yields_wideDayNumber (Fields.yield_ofTriple fits) low high
  · intro c d
    exact ⟨Calendar.yields_dayOfFields d, Calendar.yields_narrowDayOfYear d.valid.toHas⟩

/- The first month of the least year, on a day that no month has. -/
theorem least_year_keeps_to_its_types :
    let t : Triple := ⟨-2 ^ 31, 1, 255⟩
    t.Fits ∧ 1 ≤ t.month ∧ t.month ≤ monthsInYear ∧
      (Calendar.gregorian.wideDayNumber (.ofTriple t)).Yields (-784350574991) ∧
      (Calendar.hijri.wideDayNumber (.ofTriple t)).Yields (-760994673723) := by
  intro t
  have fits : t.Fits := by decide
  obtain ⟨-, encodes, -⟩ := codecs_keep_to_their_types
  have gregorian : Calendar.gregorian.dayNumber t = -784350574991 := by decide
  have hijri : Calendar.hijri.dayNumber t = -760994673723 := by decide
  exact ⟨fits, by decide, by decide, gregorian ▸ encodes .gregorian t fits (by decide) (by decide),
    hijri ▸ encodes .hijri t fits (by decide) (by decide)⟩

end Calendrics
