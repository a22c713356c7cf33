import Calendrics.Session
import Calendrics.Proofs.DateReading

/-! What a session does. `Effect` says what each step makes of a date, and `apply_eq_ok_iff` that a
step succeeds exactly when there is a date for it to make; the laws of the steps follow from that. A
failed step is as if it had not been asked for: a run ends at the last date that was answered. Main
statement: `session_stays_lawful`. -/
namespace Calendrics.Session

variable {d d' : TaggedDate} {s : Step}

/-- What a step makes of a date, told by the calendar of the new date and by its triple or its
day. -/
def Effect (d : TaggedDate) (s : Step) (d' : TaggedDate) : Prop :=
  match s with
  | .set c t => d'.calendar = c ∧ d'.triple = t
  | .read c text => d'.calendar = c ∧ Triple.read text.toList = .ok d'.triple
  | .to c => d'.calendar = c ∧ d'.dayNumber = d.dayNumber
  | .swap => d'.calendar = d.calendar.other ∧ d'.dayNumber = d.dayNumber
  | .day j => d'.calendar = d.calendar ∧ d'.dayNumber = j
  | .shift days => d'.calendar = d.calendar ∧ d'.dayNumber.value = d.dayNumber.value + days
  | .reread => d'.calendar = d.calendar.other ∧ d'.triple = d.triple
  | .replace year month day =>
    d'.calendar = d.calendar ∧ d'.triple = d.triple.withParts year month day
  | .reprint => d' = d

theorem accept_eq_ok_iff {c : Calendar} {t : Triple} :
    accept c t = .ok d ↔ d.calendar = c ∧ d.triple = t := by
  rw [accept, mapError_eq_ok_iff, TaggedDate.ofTriple_eq_ok_iff]

theorem acceptText_eq_ok_iff {c : Calendar} {cs : List Char} :
    acceptText c cs = .ok d ↔ d.calendar = c ∧ Triple.read cs = .ok d.triple := by
  rw [acceptText, mapError_eq_ok_iff, TaggedDate.read_eq_ok_iff]

/-- A step succeeds exactly when there is a date with its effect, and then makes that date. -/
theorem apply_eq_ok_iff : apply d s = .ok d' ↔ Effect d s d' := by
  cases s with
  | set c t => exact accept_eq_ok_iff
  | read c text => exact acceptText_eq_ok_iff
  | «to» c => rw [apply, Except.ok.injEq, TaggedDate.toCalendar_eq_iff, Effect]
  | swap => rw [apply, Except.ok.injEq, TaggedDate.toCalendar_eq_iff, Effect]
  | day j => rw [apply, Except.ok.injEq, TaggedDate.ofDayNumber_eq_iff, Effect]
  | shift days =>
    rw [apply, Effect]
    split
    case h_1 j found =>
      have value := DayNumber.ofInt?_eq_some_iff.mp found
      rw [Except.ok.injEq, TaggedDate.ofDayNumber_eq_iff, ← value, DayNumber.value_inj]
    case h_2 missing =>
      have outside := DayNumber.ofInt?_eq_none_iff.mp missing
      constructor
      · intro made
        cases made
      · rintro ⟨-, value⟩
        exact absurd (value ▸ d'.dayNumber.inRange) outside
  | reread => exact accept_eq_ok_iff
  | replace year month day => exact accept_eq_ok_iff
  | reprint =>
    rw [apply, acceptText, TaggedDate.read_written, Effect, Except.mapError, Except.ok.injEq]
    exact eq_comm

theorem effect_to (d : TaggedDate) (c : Calendar) : Effect d (.to c) (d.toCalendar c) :=
  TaggedDate.toCalendar_eq_iff.mp rfl

theorem effect_swap (d : TaggedDate) : Effect d .swap (d.toCalendar d.calendar.other) :=
  TaggedDate.toCalendar_eq_iff.mp rfl

theorem effect_shift {days : Int} (h : InDayRange (d.dayNumber.value + days)) :
    Effect d (.shift days) (.ofDayNumber d.calendar ⟨_, h⟩) :=
  ⟨rfl, congrArg DayNumber.value (TaggedDate.dayNumber_ofDayNumber d.calendar ⟨_, h⟩)⟩

theorem apply_shift_of_not_inRange {days : Int} (h : ¬ InDayRange (d.dayNumber.value + days)) :
    apply d (.shift days) = .error .shiftOutOfRange := by
  rw [apply, DayNumber.ofInt?_eq_none_iff.mpr h]

/- The three steps that can be taken back: each effect, read the other way round, is the effect of
the step that takes it back. -/
theorem Effect.swap_back (made : Effect d .swap d') : Effect d' .swap d := by
  obtain ⟨calendar, day⟩ := made
  exact ⟨by rw [calendar, Calendar.other_other], day.symm⟩

theorem Effect.reread_back (made : Effect d .reread d') : Effect d' .reread d := by
  obtain ⟨calendar, triple⟩ := made
  exact ⟨by rw [calendar, Calendar.other_other], triple.symm⟩

theorem Effect.shift_back {days : Int} (made : Effect d (.shift days) d') :
    Effect d' (.shift (-days)) d := by
  obtain ⟨calendar, value⟩ := made
  exact ⟨calendar.symm, by omega⟩

theorem next_to (d : TaggedDate) (c : Calendar) : next d (.to c) = .ofDayNumber c d.dayNumber :=
  d.toCalendar_eq c

theorem next_swap (d : TaggedDate) : next d .swap = .ofDayNumber d.calendar.other d.dayNumber :=
  d.toCalendar_eq d.calendar.other

/- A shift that would leave the range leaves the day. -/
theorem next_shift (d : TaggedDate) (days : Int) :
    next d (.shift days) = .ofDayNumber d.calendar
      ((DayNumber.ofInt? (d.dayNumber.value + days)).getD d.dayNumber) := by
  cases found : DayNumber.ofInt? (d.dayNumber.value + days) with
  | some j => simp only [next, apply, found, Option.getD_some]
  | none =>
    simp only [next, apply, found, Option.getD_none]
    exact d.ofDayNumber_dayNumber.symm

theorem shift_to_comm (d : TaggedDate) (c : Calendar) (days : Int) :
    next (next d (.shift days)) (.to c) = next (next d (.to c)) (.shift days) := by
  rw [next_to, next_to, next_shift, next_shift, TaggedDate.dayNumber_ofDayNumber,
    TaggedDate.dayNumber_ofDayNumber]
  rfl

/- A shift does not change the calendar, so the other one is the same before it and after. -/
theorem shift_swap_comm (d : TaggedDate) (days : Int) :
    next (next d (.shift days)) .swap = next (next d .swap) (.shift days) := by
  rw [next_swap, next_swap, next_shift, next_shift, TaggedDate.dayNumber_ofDayNumber,
    TaggedDate.dayNumber_ofDayNumber]
  rfl

/- A run is as good as the steps in it that succeed: the induction is on the steps, with the date
they start from free, since a step that succeeds moves the start. -/
theorem run_eq_last_answer (d : TaggedDate) (steps : List Step) :
    run d steps = ((answers d steps).filterMap Except.toOption).getLastD d := by
  induction steps generalizing d with
  | nil => rfl
  | cons s steps ih =>
    have rest : run d (s :: steps) = run (next d s) steps := rfl
    cases answer : apply d s with
    | ok d' =>
      have kept : (Except.ok d' : Except StepError TaggedDate).toOption = some d' := rfl
      rw [rest, ih, answers, answer, next_of_ok answer, List.filterMap_cons_some kept,
        List.getLastD_cons]
    | error e =>
      have dropped : (Except.error e : Except StepError TaggedDate).toOption = none := rfl
      rw [rest, ih, answers, answer, next_of_error answer, List.filterMap_cons_none dropped]

/-- What a session promises at a date that it has reached. -/
structure Lawful (d : TaggedDate) : Prop where
  accepted : TaggedDate.ofTriple d.calendar d.triple = .ok d
  fits : d.triple.Fits
  error_keeps : ∀ s e, apply d s = .error e → next d s = d
  to_same_day : ∀ c, ∃ d', apply d (.to c) = .ok d' ∧ d'.calendar = c ∧ d'.dayNumber = d.dayNumber
  swap_same_day : ∃ d', apply d .swap = .ok d' ∧ d'.calendar = d.calendar.other ∧
    d'.dayNumber = d.dayNumber
  reprint_same : apply d .reprint = .ok d
  shift_moves : ∀ days, InDayRange (d.dayNumber.value + days) → ∃ d',
    apply d (.shift days) = .ok d' ∧ d'.calendar = d.calendar ∧
      d'.dayNumber.value = d.dayNumber.value + days
  shift_fails : ∀ days, ¬ InDayRange (d.dayNumber.value + days) →
    apply d (.shift days) = .error .shiftOutOfRange
  swap_swap : ∀ d', apply d .swap = .ok d' → apply d' .swap = .ok d
  reread_reread : ∀ d', apply d .reread = .ok d' → apply d' .reread = .ok d
  shift_back : ∀ days d', apply d (.shift days) = .ok d' → apply d' (.shift (-days)) = .ok d
  shift_to : ∀ days c, run d [.shift days, .to c] = run d [.to c, .shift days]
  shift_swap : ∀ days, run d [.shift days, .swap] = run d [.swap, .shift days]

theorem lawful (d : TaggedDate) : Lawful d where
  accepted := d.ofTriple_triple
  fits := d.date.fits
  error_keeps _ _ := next_of_error
  to_same_day c := ⟨_, apply_eq_ok_iff.mpr (effect_to d c), effect_to d c⟩
  swap_same_day := ⟨_, apply_eq_ok_iff.mpr (effect_swap d), effect_swap d⟩
  reprint_same := apply_eq_ok_iff.mpr rfl
  shift_moves _ h := ⟨_, apply_eq_ok_iff.mpr (effect_shift h), effect_shift h⟩
  shift_fails _ := apply_shift_of_not_inRange
  swap_swap _ made := apply_eq_ok_iff.mpr (apply_eq_ok_iff.mp made).swap_back
  reread_reread _ made := apply_eq_ok_iff.mpr (apply_eq_ok_iff.mp made).reread_back
  shift_back _ _ made := apply_eq_ok_iff.mpr (apply_eq_ok_iff.mp made).shift_back
  shift_to days c := shift_to_comm d c days
  shift_swap days := shift_swap_comm d days

/-- A session starts on 1 January 2000 of the Gregorian calendar. After any steps it is at the last
date that it answered, or still at the start, and keeps its promises there. -/
theorem session_stays_lawful (steps : List Step) :
    start.calendar = .gregorian ∧ start.triple = ⟨2000, 1, 1⟩ ∧
      run start steps = ((answers start steps).filterMap Except.toOption).getLastD start ∧
      Lawful (run start steps) :=
  ⟨rfl, by decide, run_eq_last_answer start steps, lawful _⟩

/- On the last day, reached on the Hijri calendar: a day later there is none, a day earlier can be
taken back. -/
theorem session_at_last_day :
    let last := run start [.day ⟨greatestDay, by decide⟩, .swap]
    ¬ InDayRange (last.dayNumber.value + 1) ∧ next last (.shift 1) = last ∧
      InDayRange (last.dayNumber.value + -1) ∧
      ∃ before, apply last (.shift (-1)) = .ok before ∧ apply before (.shift 1) = .ok last := by
  intro last
  have promises : Lawful last := (session_stays_lawful _).2.2.2
  have value : last.dayNumber.value = greatestDay := by decide
  have after : ¬ InDayRange (last.dayNumber.value + 1) := by
    rw [value]
    decide
  have inside : InDayRange (last.dayNumber.value + -1) := by
    rw [value]
    decide
  obtain ⟨before, made, -⟩ := promises.shift_moves _ inside
  exact ⟨after, promises.error_keeps _ _ (promises.shift_fails _ after), inside, before, made,
    promises.shift_back _ before made⟩

end Calendrics.Session
