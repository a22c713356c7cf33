import Calendrics.Calendar
import Calendrics.DayNumber
import Calendrics.Gregorian.Lemmas
import Calendrics.Hijri.Lemmas

/-! The rules of each calendar under one name, and what makes a triple a date. Main statement: every
day number decodes to a date of each calendar, and that date encodes back to it. -/
namespace Calendrics.Calendar

def IsLeapYear : Calendar → Int → Prop
  | gregorian => Gregorian.IsLeapYear
  | hijri => Hijri.IsLeapYear

instance (c : Calendar) (year : Int) : Decidable (c.IsLeapYear year) :=
  match c with
  | gregorian => inferInstanceAs (Decidable (Gregorian.IsLeapYear year))
  | hijri => inferInstanceAs (Decidable (Hijri.IsLeapYear year))

def daysInMonth : Calendar → Int → Nat → Nat
  | gregorian => Gregorian.daysInMonth
  | hijri => Hijri.daysInMonth

def daysInYear : Calendar → Int → Nat
  | gregorian => Gregorian.daysInYear
  | hijri => Hijri.daysInYear

def dayOfYear : Calendar → Triple → Nat
  | gregorian => Gregorian.dayOfYear
  | hijri => Hijri.dayOfYear

/-- The day number of a date, as a count that need not be in range. -/
def dayNumber : Calendar → Triple → Int
  | gregorian => Gregorian.dayNumber
  | hijri => Hijri.dayNumber

def ofDayNumber : Calendar → Int → Triple
  | gregorian => Gregorian.ofDayNumber
  | hijri => Hijri.ofDayNumber

def months : List Nat := List.range' 1 monthsInYear

def monthLengths (c : Calendar) (year : Int) : List Nat := months.map (c.daysInMonth year)

def leapYears (c : Calendar) (years : List Int) : List Int :=
  years.filter fun year => c.IsLeapYear year

def daysOfYears (c : Calendar) (years : List Int) : Nat :=
  years.foldr (fun year days => c.daysInYear year + days) 0

/-- A month and a day that the calendar has, whether or not the day has a number. -/
structure Has (c : Calendar) (t : Triple) : Prop where
  month_pos : 1 ≤ t.month
  month_le : t.month ≤ monthsInYear
  day_pos : firstDay ≤ t.day
  day_le : t.day ≤ c.daysInMonth t.year t.month

/-- A month and a day that the calendar has, on a day that has a number. -/
structure Valid (c : Calendar) (t : Triple) : Prop extends Has c t where
  inRange : InDayRange (c.dayNumber t)

theorem dayNumber_ofDayNumber (c : Calendar) (j : Int) : c.dayNumber (c.ofDayNumber j) = j :=
  match c with
  | gregorian => Gregorian.dayNumber_ofDayNumber j
  | hijri => Hijri.dayNumber_ofDayNumber j

theorem month_ofDayNumber (c : Calendar) (j : Int) :
    1 ≤ (c.ofDayNumber j).month ∧ (c.ofDayNumber j).month ≤ monthsInYear := by
  cases c with
  | gregorian =>
    have bounds := Gregorian.monthOf_bounds j
    simp only [ofDayNumber, Gregorian.ofDayNumber, monthsInYear]
    omega
  | hijri =>
    have bounds := Hijri.monthOf_bounds j
    simp only [ofDayNumber, Hijri.ofDayNumber, monthsInYear]
    omega

theorem day_ofDayNumber (c : Calendar) (j : Int) :
    firstDay ≤ (c.ofDayNumber j).day ∧
      (c.ofDayNumber j).day ≤ c.daysInMonth (c.ofDayNumber j).year (c.ofDayNumber j).month := by
  cases c with
  | gregorian =>
    have bounds := Gregorian.dayOf_bounds j
    simp only [ofDayNumber, daysInMonth, Gregorian.ofDayNumber, firstDay]
    omega
  | hijri =>
    have bounds := Hijri.dayOf_bounds j
    simp only [ofDayNumber, daysInMonth, Hijri.ofDayNumber, firstDay]
    omega

theorem has_ofDayNumber (c : Calendar) (j : Int) : c.Has (c.ofDayNumber j) where
  month_pos := (c.month_ofDayNumber j).1
  month_le := (c.month_ofDayNumber j).2
  day_pos := (c.day_ofDayNumber j).1
  day_le := (c.day_ofDayNumber j).2

theorem valid_ofDayNumber (c : Calendar) (j : DayNumber) : c.Valid (c.ofDayNumber j.value) where
  toHas := c.has_ofDayNumber j.value
  inRange := by
    rw [dayNumber_ofDayNumber]
    exact j.inRange

end Calendrics.Calendar
