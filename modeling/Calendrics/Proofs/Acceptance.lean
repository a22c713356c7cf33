import Calendrics.Date
import Calendrics.Proofs.DayOrder

/-! Which triples a calendar accepts, and why it refuses the others. Among the triples that a
calendar has, those on a day with a number are an interval in the order of triples, from the date of
the first day number to the date of the last. Main statement: `acceptance_and_refusal`. -/
namespace Calendrics

namespace Calendar

variable {c : Calendar} {t : Triple}

/-- Before the date of the first day number, or after the date of the last. -/
def Beyond (c : Calendar) (t : Triple) : Prop :=
  t.compare (c.ofDayNumber leastDay) = .lt ∨ t.compare (c.ofDayNumber greatestDay) = .gt

/-- The triples that a reason for refusal is about. A day is only asked for in a month that there
is, and a range only for a day that the month has. -/
def Refuses (c : Calendar) (t : Triple) : Reason → Prop
  | .monthOutOfRange => ¬ (1 ≤ t.month ∧ t.month ≤ monthsInYear)
  | .dayOutOfRange greatest =>
    (1 ≤ t.month ∧ t.month ≤ monthsInYear) ∧ greatest = c.daysInMonth t.year t.month ∧
      (t.day = 0 ∨ greatest < t.day)
  | .outOfSupportedRange => c.Has t ∧ c.Beyond t

theorem compare_ofDayNumber (h : c.Has t) (j : Int) :
    t.compare (c.ofDayNumber j) = Ord.compare (c.dayNumber t) j := by
  rw [← compare_dayNumber h (c.has_ofDayNumber j), c.dayNumber_ofDayNumber]

/- The range is asked of a day, the answer is about triples: the two orders agree on what the
calendar has, and the ends of the range decode to dates of it. -/
theorem beyond_iff (h : c.Has t) : c.Beyond t ↔ ¬ InDayRange (c.dayNumber t) := by
  rw [Beyond, compare_ofDayNumber h, compare_ofDayNumber h, Int.compare_eq_lt, Int.compare_eq_gt,
    InDayRange]
  omega

theorem day_refused_iff (c : Calendar) (t : Triple) :
    ¬ (firstDay ≤ t.day ∧ t.day ≤ c.daysInMonth t.year t.month) ↔
      t.day = 0 ∨ c.daysInMonth t.year t.month < t.day := by
  rw [firstDay]
  omega

end Calendar

namespace Date

variable {c : Calendar} {t : Triple}

theorem ofTriple_of_refuses {reason : Reason} (refused : c.Refuses t reason) :
    ofTriple c t = .error ⟨c, t, reason⟩ := by
  cases reason with
  | monthOutOfRange => rw [ofTriple, dif_neg refused]
  | dayOutOfRange greatest =>
    obtain ⟨month, rfl, day⟩ := refused
    rw [ofTriple, dif_pos month, dif_neg ((c.day_refused_iff t).mpr day)]
  | outOfSupportedRange =>
    obtain ⟨has, beyond⟩ := refused
    rw [ofTriple, dif_pos ⟨has.month_pos, has.month_le⟩, dif_pos ⟨has.day_pos, has.day_le⟩,
      dif_neg ((Calendar.beyond_iff has).mp beyond)]

/- The three checks in turn: a check is about a triple that passed the checks before it. -/
theorem refuses_of_ofTriple {e : DateError} (refused : ofTriple c t = .error e) :
    e.calendar = c ∧ e.triple = t ∧ c.Refuses t e.reason := by
  simp only [ofTriple] at refused
  split at refused
  case isTrue month =>
    split at refused
    case isTrue day =>
      split at refused
      case isTrue range => cases refused
      case isFalse range =>
        cases refused
        have has : c.Has t := ⟨month.1, month.2, day.1, day.2⟩
        exact ⟨rfl, rfl, has, (Calendar.beyond_iff has).mpr range⟩
    case isFalse day =>
      cases refused
      exact ⟨rfl, rfl, month, rfl, (c.day_refused_iff t).mp day⟩
  case isFalse month =>
    cases refused
    exact ⟨rfl, rfl, month⟩

theorem ofTriple_isOk_iff : (∃ d, ofTriple c t = .ok d ∧ d.triple = t) ↔ c.Valid t := by
  constructor
  · rintro ⟨d, -, rfl⟩
    exact d.valid
  · intro valid
    exact ⟨⟨t, valid⟩, ofTriple_triple ⟨t, valid⟩, rfl⟩

end Date

/-- A triple is refused for its month if there is no such month, else for its day if the month of
that year has no such day, else for its range if it lies beyond the dates of the first and the last
day number; the error holds the calendar and the triple as given. Any other triple is a date as it
stands. -/
theorem acceptance_and_refusal (c : Calendar) (t : Triple) :
    (∀ e, Date.ofTriple c t = .error e ↔
      e.calendar = c ∧ e.triple = t ∧ c.Refuses t e.reason) ∧
    ((∃ d, Date.ofTriple c t = .ok d ∧ d.triple = t) ↔ c.Has t ∧ ¬ c.Beyond t) := by
  constructor
  · intro e
    constructor
    · exact Date.refuses_of_ofTriple
    · rintro ⟨rfl, rfl, refused⟩
      exact Date.ofTriple_of_refuses refused
  · rw [Date.ofTriple_isOk_iff]
    constructor
    · intro valid
      exact ⟨valid.toHas, fun beyond => (Calendar.beyond_iff valid.toHas).mp beyond valid.inRange⟩
    · rintro ⟨has, within⟩
      have range := mt (Calendar.beyond_iff has).mpr within
      exact ⟨has, Decidable.not_not.mp range⟩

/- The last day that is before the first day number. -/
example : Date.ofTriple .gregorian ⟨-5884323, 5, 14⟩ =
    .error ⟨.gregorian, ⟨-5884323, 5, 14⟩, .outOfSupportedRange⟩ := by decide

end Calendrics
