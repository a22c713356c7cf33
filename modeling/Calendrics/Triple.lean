/-! Year, month and day as written, before any calendar has checked them, and their lexicographic
order. -/
namespace Calendrics

/-- Both calendars number their months from 1 to this. -/
def monthsInYear : Nat := 12

/-- Both calendars number the days of a month from this. -/
def firstDay : Nat := 1

/-- A year, a month and a day, in that order of weight. -/
structure Triple where
  year : Int
  month : Nat
  day : Nat
  deriving DecidableEq, Repr

namespace Triple

def compare (a b : Triple) : Ordering :=
  (Ord.compare a.year b.year).then
    ((Ord.compare a.month b.month).then (Ord.compare a.day b.day))

/-- The triple with the given components put in place. -/
def withParts (t : Triple) (year : Option Int) (month day : Option Nat) : Triple :=
  ⟨year.getD t.year, month.getD t.month, day.getD t.day⟩

theorem ext {a b : Triple} (hy : a.year = b.year) (hm : a.month = b.month)
    (hd : a.day = b.day) : a = b := by
  cases a
  cases b
  cases hy
  cases hm
  cases hd
  rfl

end Triple

end Calendrics
