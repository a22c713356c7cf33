import Calendrics.Date
import Calendrics.Proofs.DayOrder

/-! Day numbers and dates correspond one to one on each calendar. Every day number decodes to a date
that is accepted as it stands and encodes back, in components that their fields can hold; and a date
is decoded from its own day number, because the calendar has no other triple on that day. Main
statements: `hijri_days_and_dates_correspond` and `gregorian_days_and_dates_correspond`. -/
namespace Calendrics

/-- A year that fits 32 bits with its sign, and a month and a day that fit 8 bits. -/
def Triple.Fits (t : Triple) : Prop :=
  -2 ^ 31 ≤ t.year ∧ t.year < 2 ^ 31 ∧ t.month < 2 ^ 8 ∧ t.day < 2 ^ 8

instance (t : Triple) : Decidable t.Fits :=
  inferInstanceAs (Decidable
    (-2 ^ 31 ≤ t.year ∧ t.year < 2 ^ 31 ∧ t.month < 2 ^ 8 ∧ t.day < 2 ^ 8))

theorem Gregorian.yearOf_bounds (j : DayNumber) :
    -2 ^ 31 < yearOf j.value ∧ yearOf j.value < 2 ^ 31 := by
  obtain ⟨low, high⟩ := j.inRange
  have century := centuries_bounds j.value
  have year := yearOfCentury_bounds j.value
  have month := monthFromMarch_bounds j.value
  rw [yearOf_eq]
  simp only [leastDay, greatestDay, daysSinceStart] at *
  omega

theorem Hijri.yearOf_bounds (j : DayNumber) :
    -2 ^ 31 < yearOf j.value ∧ yearOf j.value < 2 ^ 31 := by
  obtain ⟨low, high⟩ := j.inRange
  simp only [yearOf, epoch, cycleYears, cycleDays, leastDay, greatestDay] at *
  omega

namespace Calendar

theorem yearOf_bounds (c : Calendar) (j : DayNumber) :
    -2 ^ 31 < (c.ofDayNumber j.value).year ∧ (c.ofDayNumber j.value).year < 2 ^ 31 :=
  match c with
  | gregorian => Gregorian.yearOf_bounds j
  | hijri => Hijri.yearOf_bounds j

theorem daysInMonth_le (c : Calendar) (year : Int) {month : Nat} (low : 1 ≤ month)
    (high : month ≤ monthsInYear) : c.daysInMonth year month ≤ 31 := by
  cases c with
  | gregorian =>
    simp only [daysInMonth, Gregorian.daysInMonth]
    split
    · decide
    · simp only [monthsInYear] at high
      interval_cases month
      all_goals decide
  | hijri =>
    simp only [daysInMonth, Hijri.daysInMonth]
    split
    · decide
    · decide

theorem fits_ofDayNumber (c : Calendar) (j : DayNumber) : (c.ofDayNumber j.value).Fits := by
  have year := c.yearOf_bounds j
  have has := c.has_ofDayNumber j.value
  have month := has.month_le
  have day := has.day_le
  have longest := c.daysInMonth_le (c.ofDayNumber j.value).year has.month_pos has.month_le
  simp only [monthsInYear] at month
  refine ⟨Int.le_of_lt year.1, year.2, ?_, ?_⟩
  · omega
  · omega

end Calendar

theorem Date.ofDayNumber_dayNumber {c : Calendar} (d : Date c) :
    Date.ofDayNumber c d.dayNumber = d := by
  apply Date.ext
  apply c.dayNumber_injective (c.has_ofDayNumber d.dayNumber.value) d.valid.toHas
  exact c.dayNumber_ofDayNumber d.dayNumber.value

theorem Date.ofDayNumber_dayNumber_triple {c : Calendar} (d : Date c) :
    c.ofDayNumber d.dayNumber.value = d.triple :=
  congrArg Date.triple d.ofDayNumber_dayNumber

theorem Date.fits {c : Calendar} (d : Date c) : d.triple.Fits := by
  rw [← d.ofDayNumber_dayNumber_triple]
  exact c.fits_ofDayNumber d.dayNumber

/-- Every day number is a Hijri date that is accepted unchanged and encodes back to it, and every
accepted triple is decoded from its day number. -/
theorem hijri_days_and_dates_correspond :
    (∀ j : DayNumber, (Hijri.ofDayNumber j.value).Fits ∧
      Date.ofTriple .hijri (Hijri.ofDayNumber j.value) = .ok (Date.ofDayNumber .hijri j) ∧
      (Date.ofDayNumber .hijri j).dayNumber = j) ∧
    ∀ (t : Triple) (d : Date .hijri), Date.ofTriple .hijri t = .ok d →
      d.triple = t ∧ Date.ofDayNumber .hijri d.dayNumber = d := by
  constructor
  · intro j
    exact ⟨Calendar.hijri.fits_ofDayNumber j, Date.ofTriple_triple (Date.ofDayNumber .hijri j),
      Date.dayNumber_ofDayNumber j⟩
  · intro t d accepted
    exact ⟨Date.triple_of_ofTriple accepted, d.ofDayNumber_dayNumber⟩

/- The first day in range. -/
theorem hijri_first_day_corresponds :
    let first : Date .hijri := Date.ofDayNumber .hijri ⟨leastDay, by decide⟩
    Date.ofTriple .hijri ⟨-6065559, 7, 15⟩ = .ok first ∧
      first.triple = ⟨-6065559, 7, 15⟩ ∧ Date.ofDayNumber .hijri first.dayNumber = first := by
  intro first
  have accepted : Date.ofTriple .hijri ⟨-6065559, 7, 15⟩ = .ok first :=
    Date.ofTriple_eq_ok_iff.mpr (by decide)
  exact ⟨accepted, hijri_days_and_dates_correspond.2 _ first accepted⟩

/-- Every day number is a Gregorian date that is accepted unchanged and encodes back to it, and
every accepted triple is decoded from its day number. -/
theorem gregorian_days_and_dates_correspond :
    (∀ j : DayNumber, (Gregorian.ofDayNumber j.value).Fits ∧
      Date.ofTriple .gregorian (Gregorian.ofDayNumber j.value) =
        .ok (Date.ofDayNumber .gregorian j) ∧
      (Date.ofDayNumber .gregorian j).dayNumber = j) ∧
    ∀ (t : Triple) (d : Date .gregorian), Date.ofTriple .gregorian t = .ok d →
      d.triple = t ∧ Date.ofDayNumber .gregorian d.dayNumber = d := by
  constructor
  · intro j
    exact ⟨Calendar.gregorian.fits_ofDayNumber j,
      Date.ofTriple_triple (Date.ofDayNumber .gregorian j), Date.dayNumber_ofDayNumber j⟩
  · intro t d accepted
    exact ⟨Date.triple_of_ofTriple accepted, d.ofDayNumber_dayNumber⟩

/- The last day in range. -/
theorem gregorian_last_day_corresponds :
    let last : Date .gregorian := Date.ofDayNumber .gregorian ⟨greatestDay, by decide⟩
    Date.ofTriple .gregorian ⟨5874898, 6, 3⟩ = .ok last ∧
      last.triple = ⟨5874898, 6, 3⟩ ∧ Date.ofDayNumber .gregorian last.dayNumber = last := by
  intro last
  have accepted : Date.ofTriple .gregorian ⟨5874898, 6, 3⟩ = .ok last :=
    Date.ofTriple_eq_ok_iff.mpr (by decide)
  exact ⟨accepted, gregorian_days_and_dates_correspond.2 _ last accepted⟩

end Calendrics
