import Calendrics.DateText
import Calendrics.Month
import Calendrics.Rules

/-! Dates of one calendar. A date holds the proof that its calendar has it, so every date has a day
number, and every day number is a date. -/
namespace Calendrics

structure Date (c : Calendar) where
  triple : Triple
  valid : c.Valid triple
  deriving DecidableEq

namespace Date

variable {c : Calendar}

theorem ext {a b : Date c} (h : a.triple = b.triple) : a = b := by
  cases a
  cases b
  cases h
  rfl

/-- The date of a triple. The month is checked first, then the day, then the range. -/
def ofTriple (c : Calendar) (t : Triple) : Except DateError (Date c) :=
  if month : 1 ≤ t.month ∧ t.month ≤ monthsInYear then
    if day : firstDay ≤ t.day ∧ t.day ≤ c.daysInMonth t.year t.month then
      if range : InDayRange (c.dayNumber t) then
        .ok ⟨t, ⟨⟨month.1, month.2, day.1, day.2⟩, range⟩⟩
      else .error ⟨c, t, .outOfSupportedRange⟩
    else .error ⟨c, t, .dayOutOfRange (c.daysInMonth t.year t.month)⟩
  else .error ⟨c, t, .monthOutOfRange⟩

def ofDayNumber (c : Calendar) (j : DayNumber) : Date c :=
  ⟨c.ofDayNumber j.value, c.valid_ofDayNumber j⟩

def dayNumber (d : Date c) : DayNumber := ⟨c.dayNumber d.triple, d.valid.inRange⟩

def month (d : Date c) : Month := ⟨d.triple.month, d.valid.month_pos, d.valid.month_le⟩

def InLeapYear (d : Date c) : Prop := c.IsLeapYear d.triple.year

instance (d : Date c) : Decidable d.InLeapYear :=
  inferInstanceAs (Decidable (c.IsLeapYear d.triple.year))

/-- The place of a date in its year, from 1. -/
def dayOfYear (d : Date c) : Nat := c.dayOfYear d.triple

def compare (a b : Date c) : Ordering := a.triple.compare b.triple

/-- Dates in order; equal dates keep the order they came in. -/
def sort (ds : List (Date c)) : List (Date c) :=
  ds.mergeSort fun a b => (a.compare b).isLE

def text (d : Date c) : String := d.triple.text

def read (c : Calendar) (cs : List Char) : Except ReadError (Date c) := do
  let t ← Triple.read cs
  (ofTriple c t).mapError .invalidDate

theorem ofTriple_triple (d : Date c) : ofTriple c d.triple = .ok d := by
  have v := d.valid
  rw [ofTriple, dif_pos ⟨v.month_pos, v.month_le⟩, dif_pos ⟨v.day_pos, v.day_le⟩,
    dif_pos v.inRange]

theorem triple_of_ofTriple {t : Triple} {d : Date c} (h : ofTriple c t = .ok d) :
    d.triple = t := by
  simp only [ofTriple] at h
  split at h
  · split at h
    · split at h
      · cases h
        rfl
      · cases h
    · cases h
  · cases h

/-- A triple is a date exactly when the calendar has it. -/
theorem ofTriple_eq_ok_iff {t : Triple} {d : Date c} : ofTriple c t = .ok d ↔ d.triple = t :=
  ⟨triple_of_ofTriple, fun h => h ▸ ofTriple_triple d⟩

theorem dayNumber_ofDayNumber (j : DayNumber) : (ofDayNumber c j).dayNumber = j :=
  DayNumber.ext (c.dayNumber_ofDayNumber j.value)

end Date

end Calendrics
