/-! Julian day numbers, the count of days on which the two calendars meet. A day number is a signed
32-bit integer; every one of them is a day on each calendar. -/
namespace Calendrics

def leastDay : Int := -2147483648

def greatestDay : Int := 2147483647

def InDayRange (n : Int) : Prop := leastDay ≤ n ∧ n ≤ greatestDay

instance (n : Int) : Decidable (InDayRange n) :=
  inferInstanceAs (Decidable (leastDay ≤ n ∧ n ≤ greatestDay))

/-- A Julian day number. -/
structure DayNumber where
  value : Int
  inRange : InDayRange value
  deriving DecidableEq

namespace DayNumber

theorem ext {a b : DayNumber} (h : a.value = b.value) : a = b := by
  cases a
  cases b
  cases h
  rfl

def ofInt? (n : Int) : Option DayNumber :=
  if h : InDayRange n then some ⟨n, h⟩ else none

def compare (a b : DayNumber) : Ordering := Ord.compare a.value b.value

/-- The day numbers met by steps of one length, up to the first that leaves the range. -/
def walk (step : Int) : Int → Nat → List DayNumber
  | _, 0 => []
  | n, count + 1 =>
    match ofInt? n with
    | none => []
    | some j => j :: walk step (n + step) count

theorem ofInt?_value (j : DayNumber) : ofInt? j.value = some j := by
  simp only [ofInt?, dif_pos j.inRange]

theorem ofInt?_eq_some_iff {n : Int} {j : DayNumber} : ofInt? n = some j ↔ j.value = n := by
  constructor
  · intro h
    by_cases hr : InDayRange n
    · simp only [ofInt?, dif_pos hr, Option.some.injEq] at h
      rw [← h]
    · simp only [ofInt?, dif_neg hr] at h
      cases h
  · intro h
    rw [← h, ofInt?_value]

theorem ofInt?_eq_none_iff {n : Int} : ofInt? n = none ↔ ¬ InDayRange n := by
  by_cases hr : InDayRange n
  · simp [ofInt?, hr]
  · simp [ofInt?, hr]

end DayNumber

end Calendrics
