import Calendrics.Triple

/-! The proleptic Gregorian calendar as arithmetic: the leap rule, the lengths of months and years,
and the two closed forms between a date and its day number. Years are astronomical, so that 1 BC is
the year 0. The closed forms count in years that begin on 1 March, where the leap day comes last. -/
namespace Calendrics.Gregorian

/-- Every fourth year is a leap year, except the centuries that 400 does not divide. The remainders
have the sign of the year. -/
def IsLeapYear (year : Int) : Prop :=
  (year.tmod 4 = 0 ∧ year.tmod 100 ≠ 0) ∨ year.tmod 400 = 0

instance (year : Int) : Decidable (IsLeapYear year) :=
  inferInstanceAs (Decidable ((year.tmod 4 = 0 ∧ year.tmod 100 ≠ 0) ∨ year.tmod 400 = 0))

def february : Nat := 2

def leapFebruary : Nat := 29

/-- The lengths of the months of a common year, by month number; no month has the number 0. -/
def commonMonths : List Nat := [0, 31, 28, 31, 30, 31, 30, 31, 31, 30, 31, 30, 31]

def daysInMonth (year : Int) (month : Nat) : Nat :=
  if month = february ∧ IsLeapYear year then leapFebruary else commonMonths.getD month 0

def daysInYear (year : Int) : Nat :=
  if IsLeapYear year then 366 else 365

/-- The place of a date in its year, 1 for 1 January: the months gone by and the day. -/
def dayOfYear (t : Triple) : Nat :=
  (List.range' 1 (t.month - 1)).foldr (fun month days => daysInMonth t.year month + days) t.day

/-- The day number of noon on 1 January 2000. -/
def dayOf2000 : Int := 2451545

/-- One for January and February, which end the year begun the March before, and zero after. -/
def yearsBack (month : Int) : Int := (14 - month) / 12

def dayNumber (t : Triple) : Int :=
  let back := yearsBack t.month
  let year := t.year + 4800 - back
  let month := t.month + 12 * back - 3
  t.day + (153 * month + 2) / 5 + 365 * year + year / 4 - year / 100 + year / 400 - 32045

/-- Days since 1 March of the year -4800. -/
def daysSinceStart (j : Int) : Int := j + 32044

def centuries (j : Int) : Int := (4 * daysSinceStart j + 3) / 146097

def dayOfCentury (j : Int) : Int := daysSinceStart j - 146097 * centuries j / 4

def yearOfCentury (j : Int) : Int := (4 * dayOfCentury j + 3).tdiv 1461

/-- Days into the year that begins in March. -/
def dayFromMarch (j : Int) : Int := dayOfCentury j - (1461 * yearOfCentury j).tdiv 4

def monthFromMarch (j : Int) : Int := (5 * dayFromMarch j + 2).tdiv 153

def yearOf (j : Int) : Int :=
  100 * centuries j + yearOfCentury j - 4800 + (monthFromMarch j).tdiv 10

def monthOf (j : Int) : Int := monthFromMarch j + 3 - 12 * (monthFromMarch j).tdiv 10

def dayOf (j : Int) : Int := dayFromMarch j - (153 * monthFromMarch j + 2).tdiv 5 + 1

def ofDayNumber (j : Int) : Triple := ⟨yearOf j, (monthOf j).toNat, (dayOf j).toNat⟩

end Calendrics.Gregorian
