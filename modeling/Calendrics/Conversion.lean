import Calendrics.Event

/-! Conversion between the calendars through the day number. A triple or a text is read in the
direction's source calendar; the answer is tagged with its target. -/
namespace Calendrics.Direction

/-- The same day on the target calendar. -/
def cross (direction : Direction) (d : Date direction.source) : Date direction.target :=
  Date.ofDayNumber direction.target d.dayNumber

def crossing (direction : Direction) (d : Date direction.source) : Event :=
  .crossed direction d d.dayNumber (direction.cross d)

def answer (direction : Direction) (d : Date direction.source) : TaggedDate :=
  ⟨direction.target, direction.cross d⟩

/-- Converts a triple, or says why the source calendar refuses it. -/
def convert (direction : Direction) (t : Triple) : Logged (Except DateError TaggedDate) :=
  match Date.ofTriple direction.source t with
  | .error e => ⟨.error e, [.refusedTriple direction e]⟩
  | .ok d => ⟨.ok (direction.answer d), [direction.crossing d]⟩

def convertText (direction : Direction) (input : String) : Logged (Except ReadError TaggedDate) :=
  match Date.read direction.source input.toList with
  | .error e => ⟨.error e, [.refusedText direction input e]⟩
  | .ok d =>
    ⟨.ok (direction.answer d),
      [direction.crossing d, .converted direction ⟨direction.source, d⟩ (direction.answer d)]⟩

section

variable {direction : Direction} {t : Triple} {input : String}

theorem convert_of_accepted {d : Date direction.source}
    (h : Date.ofTriple direction.source t = .ok d) :
    direction.convert t = ⟨.ok (direction.answer d), [direction.crossing d]⟩ := by
  rw [convert, h]

theorem convert_of_refused {e : DateError} (h : Date.ofTriple direction.source t = .error e) :
    direction.convert t = ⟨.error e, [.refusedTriple direction e]⟩ := by
  rw [convert, h]

theorem convertText_of_read {d : Date direction.source}
    (h : Date.read direction.source input.toList = .ok d) :
    direction.convertText input = ⟨.ok (direction.answer d), [direction.crossing d,
      .converted direction ⟨direction.source, d⟩ (direction.answer d)]⟩ := by
  rw [convertText, h]

theorem convertText_of_refused {e : ReadError}
    (h : Date.read direction.source input.toList = .error e) :
    direction.convertText input = ⟨.error e, [.refusedText direction input e]⟩ := by
  rw [convertText, h]

end

end Calendrics.Direction
