import Calendrics.Triple

/-! The tabular Hijri calendar as arithmetic. Odd months have 30 days and even months 29; the
twelfth month has a thirtieth day in 11 years of every cycle of 30. Years before the first continue
backwards. -/
namespace Calendrics.Hijri

/-- The day number of 1 Muharram of the year 1. -/
def epoch : Int := 1948440

def longMonth : Nat := 30

def shortMonth : Nat := 29

def commonYear : Nat := 354

/-- The month that the leap day is added to. -/
def leapMonth : Nat := 12

def cycleYears : Int := 30

def cycleLeapYears : Int := 11

def cycleDays : Int := 10631

/-- Leap years are spread evenly: those at which a count that grows by 11 a year passes a multiple
of 30. -/
def IsLeapYear (year : Int) : Prop :=
  (cycleLeapYears * year + 14) % cycleYears < cycleLeapYears

instance (year : Int) : Decidable (IsLeapYear year) :=
  inferInstanceAs (Decidable ((cycleLeapYears * year + 14) % cycleYears < cycleLeapYears))

def daysInMonth (year : Int) (month : Nat) : Nat :=
  if month % 2 = 1 ∨ (month = leapMonth ∧ IsLeapYear year) then longMonth else shortMonth

def daysInYear (year : Int) : Nat :=
  if IsLeapYear year then commonYear + 1 else commonYear

/-- The days of the months before a month, 30 and 29 in turn. -/
def daysBeforeMonth (month : Int) : Int := shortMonth * (month - 1) + month / 2

/-- The place of a date in its year, 1 for 1 Muharram. -/
def dayOfYear (t : Triple) : Nat := (daysBeforeMonth t.month + t.day).toNat

/-- The leap days of the years before a year, counted from the epoch. -/
def leapDaysBefore (year : Int) : Int := (3 + cycleLeapYears * year) / cycleYears

def count (year month day : Int) : Int :=
  epoch - 1 + commonYear * (year - 1) + leapDaysBefore year + daysBeforeMonth month + day

def dayNumber (t : Triple) : Int := count t.year t.month t.day

/-- The year of a day number: whole cycles and the year within the cycle in one division. -/
def yearOf (j : Int) : Int := (cycleYears * (j - epoch) + cycleDays + 15) / cycleDays

def dayFromMuharram (j : Int) : Int := j - count (yearOf j) 1 1

def monthOf (j : Int) : Int := (11 * dayFromMuharram j + 330).tdiv 325

def dayOf (j : Int) : Int := j - count (yearOf j) (monthOf j) 1 + 1

def ofDayNumber (j : Int) : Triple := ⟨yearOf j, (monthOf j).toNat, (dayOf j).toNat⟩

end Calendrics.Hijri
