import Calendrics.Conversion
import Calendrics.Proofs.SameDay

/-! Conversion loses nothing. A triple is converted exactly when the source calendar accepts it; the
answer is the date of the same day on the target calendar, and converting its triple back gives the
triple. Main statement: `conversion_lossless`. -/
namespace Calendrics

namespace Direction

variable {direction : Direction} {t : Triple}

theorem convert_value (direction : Direction) (t : Triple) :
    (direction.convert t).value = (Date.ofTriple direction.source t).map direction.answer := by
  cases found : Date.ofTriple direction.source t with
  | error e => rw [convert_of_refused found]; rfl
  | ok d => rw [convert_of_accepted found]; rfl

theorem convert_eq_error_iff {e : DateError} :
    (direction.convert t).value = .error e ↔ Date.ofTriple direction.source t = .error e := by
  rw [convert_value, map_eq_error_iff]

theorem convert_ofDayNumber (direction : Direction) (j : DayNumber) :
    (direction.convert (TaggedDate.ofDayNumber direction.source j).triple).value =
      .ok (TaggedDate.ofDayNumber direction.target j) := by
  have accepted := Date.ofTriple_triple (Date.ofDayNumber direction.source j)
  have same_day := Date.dayNumber_ofDayNumber (c := direction.source) j
  rw [convert_value, TaggedDate.triple, TaggedDate.ofDayNumber, accepted, Except.map, answer, cross,
    same_day, TaggedDate.ofDayNumber]

theorem convert_reverse_ofDayNumber (direction : Direction) (j : DayNumber) :
    (direction.reverse.convert (TaggedDate.ofDayNumber direction.target j).triple).value =
      .ok (TaggedDate.ofDayNumber direction.source j) := by
  have back := convert_ofDayNumber direction.reverse j
  rw [source_reverse, target_reverse] at back
  exact back

theorem cross_bijective (direction : Direction) : Function.Bijective direction.cross :=
  ((Date.dayEquiv direction.source).trans (Date.dayEquiv direction.target).symm).bijective

end Direction

/-- Conversion matches the dates of the two calendars one to one. A triple is refused exactly when
the source calendar refuses it, with the same error. An accepted triple is answered by the date of
its day on the target calendar, whose components fit their fields and convert back to the triple. -/
theorem conversion_lossless (direction : Direction) :
    Function.Bijective direction.cross ∧
    ∀ t : Triple,
      (∀ e, (direction.convert t).value = .error e ↔ Date.ofTriple direction.source t = .error e) ∧
      ∀ d, Date.ofTriple direction.source t = .ok d →
        ∃ r, (direction.convert t).value = .ok r ∧ r.calendar = direction.target ∧
          r.dayNumber = d.dayNumber ∧ r.triple.Fits ∧
          ∃ back, (direction.reverse.convert r.triple).value = .ok back ∧
            back.calendar = direction.source ∧ back.triple = t := by
  constructor
  · exact direction.cross_bijective
  intro t
  constructor
  · intro e
    exact Direction.convert_eq_error_iff
  · intro d accepted
    have of_day : TaggedDate.ofDayNumber direction.source d.dayNumber = ⟨direction.source, d⟩ :=
      TaggedDate.ofDayNumber_dayNumber ⟨direction.source, d⟩
    have of_triple : (TaggedDate.ofDayNumber direction.source d.dayNumber).triple = t := by
      rw [of_day]
      exact Date.triple_of_ofTriple accepted
    have there := direction.convert_ofDayNumber d.dayNumber
    rw [of_triple] at there
    exact ⟨TaggedDate.ofDayNumber direction.target d.dayNumber, there, rfl,
      TaggedDate.dayNumber_ofDayNumber direction.target d.dayNumber,
      direction.target.fits_ofDayNumber d.dayNumber,
      TaggedDate.ofDayNumber direction.source d.dayNumber,
      direction.convert_reverse_ofDayNumber d.dayNumber, rfl, of_triple⟩

/- The last day in range. -/
theorem conversion_of_last_day :
    let last : Date .gregorian := Date.ofDayNumber .gregorian ⟨greatestDay, by decide⟩
    Date.ofTriple Direction.gregorianToHijri.source ⟨5874898, 6, 3⟩ = .ok last ∧
      ∃ r, (Direction.gregorianToHijri.convert ⟨5874898, 6, 3⟩).value = .ok r ∧
        r.calendar = .hijri ∧ r.dayNumber = last.dayNumber ∧ r.triple.Fits ∧
        ∃ back, (Direction.hijriToGregorian.convert r.triple).value = .ok back ∧
          back.calendar = .gregorian ∧ back.triple = ⟨5874898, 6, 3⟩ := by
  intro last
  have accepted : Date.ofTriple .gregorian ⟨5874898, 6, 3⟩ = .ok last :=
    Date.ofTriple_eq_ok_iff.mpr (by decide)
  exact ⟨accepted, ((conversion_lossless .gregorianToHijri).2 _).2 last accepted⟩

end Calendrics
