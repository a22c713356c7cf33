import Calendrics.TaggedDate
import Calendrics.Proofs.Codec

/-! The date of a day on a calendar. A date of one calendar is determined by its day number, so a
tagged date is determined by its calendar and its day number, and moving it to a calendar is
decoding its day number there. The record of a day holds what both moves give. Main statement:
`tagged_dates_share_their_day`. -/
namespace Calendrics

/- When a result still succeeds or fails after its value or its error was mapped. -/
section Result

variable {ε ε' α β : Type} {x : Except ε α}

theorem map_eq_ok_iff {f : α → β} {b : β} : x.map f = .ok b ↔ ∃ a, x = .ok a ∧ f a = b := by
  cases x with
  | error e => simp [Except.map]
  | ok a => simp [Except.map]

theorem map_eq_error_iff {f : α → β} {e : ε} : x.map f = .error e ↔ x = .error e := by
  cases x with
  | error e' => simp [Except.map]
  | ok a => simp [Except.map]

theorem mapError_eq_ok_iff {f : ε → ε'} {a : α} : x.mapError f = .ok a ↔ x = .ok a := by
  cases x with
  | error e => simp [Except.mapError]
  | ok a' => simp [Except.mapError]

end Result

theorem DayNumber.value_inj {i j : DayNumber} : i.value = j.value ↔ i = j :=
  ⟨DayNumber.ext, congrArg DayNumber.value⟩

/-- Dates of a calendar and day numbers correspond one to one. -/
def Date.dayEquiv (c : Calendar) : Date c ≃ DayNumber where
  toFun := Date.dayNumber
  invFun := Date.ofDayNumber c
  left_inv := Date.ofDayNumber_dayNumber
  right_inv := Date.dayNumber_ofDayNumber

namespace TaggedDate

variable {c : Calendar}

theorem ofTriple_eq_ok_iff {t : Triple} {d : TaggedDate} :
    ofTriple c t = .ok d ↔ d.calendar = c ∧ d.triple = t := by
  rw [ofTriple, map_eq_ok_iff]
  constructor
  · rintro ⟨date, accepted, rfl⟩
    exact ⟨rfl, Date.triple_of_ofTriple accepted⟩
  · rintro ⟨rfl, rfl⟩
    exact ⟨d.date, Date.ofTriple_triple d.date, rfl⟩

theorem ofTriple_triple (d : TaggedDate) : ofTriple d.calendar d.triple = .ok d :=
  ofTriple_eq_ok_iff.mpr ⟨rfl, rfl⟩

theorem dayNumber_ofDayNumber (c : Calendar) (j : DayNumber) : (ofDayNumber c j).dayNumber = j :=
  Date.dayNumber_ofDayNumber j

theorem ofDayNumber_dayNumber (d : TaggedDate) : ofDayNumber d.calendar d.dayNumber = d :=
  congrArg (TaggedDate.mk d.calendar) d.date.ofDayNumber_dayNumber

theorem ofDayNumber_eq_iff {j : DayNumber} {d : TaggedDate} :
    ofDayNumber c j = d ↔ d.calendar = c ∧ d.dayNumber = j := by
  constructor
  · rintro rfl
    exact ⟨rfl, dayNumber_ofDayNumber c j⟩
  · rintro ⟨rfl, rfl⟩
    exact ofDayNumber_dayNumber d

/-- The date itself is the date of its day, so both ways to move a date decode its day number. -/
theorem onCalendar_eq (d : TaggedDate) (c : Calendar) :
    d.onCalendar c = Date.ofDayNumber c d.dayNumber := by
  by_cases own : d.calendar = c
  · subst own
    rw [onCalendar, dif_pos rfl]
    exact d.date.ofDayNumber_dayNumber.symm
  · rw [onCalendar, dif_neg own]

theorem toCalendar_eq (d : TaggedDate) (c : Calendar) :
    d.toCalendar c = ofDayNumber c d.dayNumber :=
  congrArg (TaggedDate.mk c) (d.onCalendar_eq c)

theorem toCalendar_eq_iff {d e : TaggedDate} :
    d.toCalendar c = e ↔ e.calendar = c ∧ e.dayNumber = d.dayNumber := by
  rw [toCalendar_eq, ofDayNumber_eq_iff]

@[simp] theorem dayNumber_toCalendar (d : TaggedDate) (c : Calendar) :
    (d.toCalendar c).dayNumber = d.dayNumber :=
  (toCalendar_eq_iff.mp rfl).2

@[simp] theorem toCalendar_toCalendar (d : TaggedDate) (c c' : Calendar) :
    (d.toCalendar c).toCalendar c' = d.toCalendar c' := by
  rw [toCalendar_eq _ c', toCalendar_eq _ c', dayNumber_toCalendar]

@[simp] theorem toCalendar_self (d : TaggedDate) : d.toCalendar d.calendar = d :=
  toCalendar_eq_iff.mpr ⟨rfl, rfl⟩

theorem toCalendar_eq_toCalendar_iff {d e : TaggedDate} :
    d.toCalendar c = e.toCalendar c ↔ d.dayNumber = e.dayNumber := by
  rw [toCalendar_eq_iff, dayNumber_toCalendar]
  constructor
  · rintro ⟨-, same_day⟩
    exact same_day.symm
  · intro same_day
    exact ⟨rfl, same_day.symm⟩

theorem eq_iff_dayNumber {d e : TaggedDate} :
    d = e ↔ d.dayNumber = e.dayNumber ∧ d.calendar = e.calendar := by
  constructor
  · rintro rfl
    exact ⟨rfl, rfl⟩
  · rintro ⟨same_day, same_calendar⟩
    rw [← ofDayNumber_dayNumber d, ofDayNumber_eq_iff]
    exact ⟨same_calendar.symm, same_day.symm⟩

end TaggedDate

namespace DayRecord

/- The record decodes both dates anew, and so gives back the one that was there. -/
theorem ofDate_eq (d : TaggedDate) :
    ofDate d = ⟨d.dayNumber, d.onCalendar .gregorian, d.onCalendar .hijri⟩ := by
  rw [ofDate, ofDayNumber, TaggedDate.onCalendar_eq, TaggedDate.onCalendar_eq]

theorem ofDate_eq_iff {d e : TaggedDate} : ofDate d = ofDate e ↔ d.dayNumber = e.dayNumber := by
  constructor
  · exact congrArg day
  · intro same_day
    rw [ofDate, ofDate, same_day]

end DayRecord

/-- A date moved to a calendar is of that calendar and of the same day. Moving it on is moving it at
once, and moving it to its own calendar leaves it. Moved dates are equal exactly if their days are,
and dates exactly if their calendars are as well. The record of a date has its day number and the
date on each calendar, all of one day, and is the record of every date of that day, wherever it was
moved to. -/
theorem tagged_dates_share_their_day (x y : TaggedDate) (c c' : Calendar) :
    ((x.toCalendar c).calendar = c ∧ (x.toCalendar c).dayNumber = x.dayNumber) ∧
    (x.toCalendar c).toCalendar c' = x.toCalendar c' ∧
    x.toCalendar x.calendar = x ∧
    (x.toCalendar c = y.toCalendar c ↔ x.dayNumber = y.dayNumber) ∧
    (x = y ↔ x.dayNumber = y.dayNumber ∧ x.calendar = y.calendar) ∧
    DayRecord.ofDate x = ⟨x.dayNumber, x.onCalendar .gregorian, x.onCalendar .hijri⟩ ∧
    (DayRecord.ofDate x).IsCoherent ∧
    (DayRecord.ofDate x = DayRecord.ofDate y ↔ x.dayNumber = y.dayNumber) ∧
    DayRecord.ofDate (x.toCalendar c) = DayRecord.ofDate x :=
  ⟨⟨rfl, x.dayNumber_toCalendar c⟩, x.toCalendar_toCalendar c c', x.toCalendar_self,
    TaggedDate.toCalendar_eq_toCalendar_iff, TaggedDate.eq_iff_dayNumber, DayRecord.ofDate_eq x,
    DayRecord.isCoherent_ofDayNumber x.dayNumber, DayRecord.ofDate_eq_iff,
    DayRecord.ofDate_eq_iff.mpr (x.dayNumber_toCalendar c)⟩

end Calendrics
