import Calendrics.Proofs.Conversion
import Calendrics.Proofs.DatePrinting
import Calendrics.Proofs.Wording

/-! What conversions tell of themselves. A text is converted as the triple that it reads as, with
one event more. An error leaves one event, which holds its message; a success leaves events whose
texts are read back as the date that came in and the date that went out, with the day number that
both have. Main statement: `events_tell_of_conversion`. -/
namespace Calendrics

namespace Event

def field? (event : Event) (name : String) : Option String := event.fields.lookup name

/-- A field whose text is read as a date of a calendar. -/
def Tells (event : Event) (name : String) (c : Calendar) (d : TaggedDate) : Prop :=
  ∃ text, event.field? name = some text ∧ TaggedDate.read c text.toList = .ok d

structure Rejects (event : Event) (direction : Direction) (reason : String) : Prop where
  level : event.level = .debug
  message : event.message = "rejected input"
  names_direction : event.field? "direction" = some direction.wording
  names_reason : event.field? "err" = some reason

/-- An event that tells of the crossing from one date to another, and of the day of both. -/
structure Crosses (event : Event) (direction : Direction) (source result : TaggedDate) : Prop where
  level : event.level = .trace
  message : event.message = s!"{direction.source.word} -> {direction.target.word}"
  tells_source : event.Tells "date" direction.source source
  tells_result : event.Tells direction.target.word direction.target result
  day_of_source : event.field? "jdn" = some (toString source.dayNumber.value)
  day_of_result : event.field? "jdn" = some (toString result.dayNumber.value)

structure Converts (event : Event) (direction : Direction) (source result : TaggedDate) : Prop where
  level : event.level = .debug
  message : event.message = "converted"
  names_direction : event.field? "direction" = some direction.wording
  tells_source : event.Tells "source" direction.source source
  tells_result : event.Tells "converted" direction.target result

theorem tells_of_text {event : Event} {name : String} {c : Calendar} {d : TaggedDate}
    (own : d.calendar = c) (h : event.field? name = some d.text) : event.Tells name c d :=
  ⟨d.text, h, own ▸ d.read_text⟩

theorem rejects_refusedTriple (direction : Direction) (e : DateError) :
    (refusedTriple direction e).Rejects direction e.wording where
  level := rfl
  message := rfl
  names_direction := congrArg some direction.name_eq
  names_reason := congrArg some e.message_eq

theorem rejects_refusedText (direction : Direction) (input : String) (e : ReadError) :
    (refusedText direction input e).Rejects direction e.wording where
  level := rfl
  message := rfl
  names_direction := congrArg some direction.name_eq
  names_reason := congrArg some e.message_eq

theorem crosses_crossing (direction : Direction) (d : Date direction.source) :
    (direction.crossing d).Crosses direction ⟨direction.source, d⟩ (direction.answer d) where
  level := rfl
  message := by cases direction <;> rfl
  tells_source := tells_of_text rfl rfl
  tells_result := by
    have text : (direction.crossing d).field? direction.target.word =
        some (direction.answer d).text := by cases direction <;> rfl
    exact tells_of_text rfl text
  day_of_source := congrArg some (Decimal.text_eq _)
  day_of_result := by
    have same_day : (direction.answer d).dayNumber = d.dayNumber := Date.dayNumber_ofDayNumber _
    rw [same_day]
    exact congrArg some (Decimal.text_eq _)

theorem converts_converted (direction : Direction) {source result : TaggedDate}
    (own : source.calendar = direction.source) (far : result.calendar = direction.target) :
    (converted direction source result).Converts direction source result where
  level := rfl
  message := rfl
  names_direction := congrArg some direction.name_eq
  tells_source := tells_of_text own rfl
  tells_result := tells_of_text far rfl

end Event

namespace Direction

variable {direction : Direction} {t : Triple} {input : String} {r : TaggedDate}

theorem convertText_value (direction : Direction) (input : String) :
    (direction.convertText input).value =
      (Date.read direction.source input.toList).map direction.answer := by
  cases found : Date.read direction.source input.toList with
  | error e => rw [convertText_of_refused found]; rfl
  | ok d => rw [convertText_of_read found]; rfl

theorem convertText_of_triple (h : Triple.read input.toList = .ok t) :
    (direction.convertText input).value = (direction.convert t).value.mapError .invalidDate := by
  rw [convertText_value, convert_value, Date.read_of_text h]
  cases Date.ofTriple direction.source t <;> rfl

theorem convertText_of_no_triple {e : ReadError} (h : Triple.read input.toList = .error e) :
    (direction.convertText input).value = .error e := by
  rw [convertText_of_refused (Date.read_of_refused h)]

theorem convert_rejects {e : DateError} (h : (direction.convert t).value = .error e) :
    ∃ event, (direction.convert t).events = [event] ∧ event.Rejects direction e.wording := by
  rw [convert_of_refused (convert_eq_error_iff.mp h)]
  exact ⟨_, rfl, Event.rejects_refusedTriple direction e⟩

theorem convertText_rejects {e : ReadError} (h : (direction.convertText input).value = .error e) :
    ∃ event, (direction.convertText input).events = [event] ∧ event.Rejects direction e.wording := by
  rw [convertText_value, map_eq_error_iff] at h
  rw [convertText_of_refused h]
  exact ⟨_, rfl, Event.rejects_refusedText direction input e⟩

theorem convert_crosses (h : (direction.convert t).value = .ok r) :
    ∃ source event, TaggedDate.ofTriple direction.source t = .ok source ∧
      (direction.convert t).events = [event] ∧ event.Crosses direction source r := by
  rw [convert_value, map_eq_ok_iff] at h
  obtain ⟨d, accepted, rfl⟩ := h
  rw [convert_of_accepted accepted]
  exact ⟨⟨direction.source, d⟩, _, map_eq_ok_iff.mpr ⟨d, accepted, rfl⟩, rfl,
    Event.crosses_crossing direction d⟩

/- The crossing is told as for the triple of the text; the event of the text comes after it. -/
theorem convertText_converts (h : (direction.convertText input).value = .ok r) :
    ∃ t source event, Triple.read input.toList = .ok t ∧
      TaggedDate.read direction.source input.toList = .ok source ∧
      (direction.convertText input).events = (direction.convert t).events ++ [event] ∧
      event.Converts direction source r := by
  rw [convertText_value, map_eq_ok_iff] at h
  obtain ⟨d, found, rfl⟩ := h
  rw [convertText_of_read found]
  refine ⟨d.triple, ⟨direction.source, d⟩, _, Date.read_eq_ok_iff.mp found,
    TaggedDate.read_of_date found, ?_, Event.converts_converted direction rfl rfl⟩
  rw [convert_of_accepted (Date.ofTriple_triple d)]
  rfl

end Direction

/-- In each direction, a text that reads as a triple is answered as the triple is, and any other
text is refused as the reader refuses it. A refusal of either leaves one event, with the direction
and the message of the error. A success leaves one event that tells of the crossing, whose texts are
read back as the dates it went from and to, and whose day number is that of both; after a text,
there is one event more, whose texts are read back so too. -/
theorem events_tell_of_conversion (direction : Direction) :
    (∀ input : String,
      (∀ t, Triple.read input.toList = .ok t →
        (direction.convertText input).value = (direction.convert t).value.mapError .invalidDate) ∧
      (∀ e, Triple.read input.toList = .error e → (direction.convertText input).value = .error e) ∧
      (∀ e, (direction.convertText input).value = .error e →
        ∃ event, (direction.convertText input).events = [event] ∧
          event.Rejects direction e.wording) ∧
      ∀ r, (direction.convertText input).value = .ok r →
        ∃ t source event, Triple.read input.toList = .ok t ∧
          TaggedDate.read direction.source input.toList = .ok source ∧
          (direction.convertText input).events = (direction.convert t).events ++ [event] ∧
          event.Converts direction source r) ∧
    ∀ t : Triple,
      (∀ e, (direction.convert t).value = .error e →
        ∃ event, (direction.convert t).events = [event] ∧ event.Rejects direction e.wording) ∧
      ∀ r, (direction.convert t).value = .ok r →
        ∃ source event, TaggedDate.ofTriple direction.source t = .ok source ∧
          (direction.convert t).events = [event] ∧ event.Crosses direction source r :=
  ⟨fun _ => ⟨fun _ => Direction.convertText_of_triple, fun _ => Direction.convertText_of_no_triple,
      fun _ => Direction.convertText_rejects, fun _ => Direction.convertText_converts⟩,
    fun _ => ⟨fun _ => Direction.convert_rejects, fun _ => Direction.convert_crosses⟩⟩

/- A Hijri text that is a date, one that is a triple but no date because the year has no leap day,
and one that is no triple. -/
theorem events_of_leap_day_that_is_not :
    let direction := Direction.hijriToGregorian
    let r : TaggedDate :=
      ⟨.gregorian, ⟨2024, 3, 11⟩, ⟨⟨by decide, by decide, by decide, by decide⟩, by decide⟩⟩
    (Triple.read "1446-12-30".toList = .ok ⟨1446, 12, 30⟩ ∧
      (direction.convertText "1446-12-30").value =
        (direction.convert ⟨1446, 12, 30⟩).value.mapError .invalidDate) ∧
    (Triple.read "1446/12/1".toList = .error (.badFormat "1446/12/1") ∧
      (direction.convertText "1446/12/1").value = .error (.badFormat "1446/12/1")) ∧
    (∃ event, (direction.convertText "1446-12-30").events = [event] ∧
      event.Rejects direction "Invalid Hijri date 1446-12-30: day must be 1-29") ∧
    (∃ event, (direction.convert ⟨1446, 12, 30⟩).events = [event] ∧
      event.Rejects direction "Invalid Hijri date 1446-12-30: day must be 1-29") ∧
    (∃ t source event, Triple.read " 1445-9-1".toList = .ok t ∧
      TaggedDate.read .hijri " 1445-9-1".toList = .ok source ∧
      (direction.convertText " 1445-9-1").events = (direction.convert t).events ++ [event] ∧
      event.Converts direction source r) ∧
    ∃ source event, TaggedDate.ofTriple .hijri ⟨1445, 9, 1⟩ = .ok source ∧
      (direction.convert ⟨1445, 9, 1⟩).events = [event] ∧ event.Crosses direction source r := by
  intro direction r
  let refused : DateError := ⟨.hijri, ⟨1446, 12, 30⟩, .dayOutOfRange 29⟩
  obtain ⟨of_text, of_triple⟩ := events_tell_of_conversion direction
  have reads : Triple.read "1446-12-30".toList = .ok ⟨1446, 12, 30⟩ := by decide
  have unreadable : Triple.read "1446/12/1".toList = .error (.badFormat "1446/12/1") := by decide
  have no_date : (direction.convert ⟨1446, 12, 30⟩).value = .error refused := by decide
  have no_date_text : (direction.convertText "1446-12-30").value = .error (.invalidDate refused) := by
    decide
  have converted : (direction.convert ⟨1445, 9, 1⟩).value = .ok r := by decide
  have converted_text : (direction.convertText " 1445-9-1").value = .ok r := by decide
  have wording : refused.wording = "Invalid Hijri date 1446-12-30: day must be 1-29" := by decide
  exact ⟨⟨reads, (of_text _).1 _ reads⟩, ⟨unreadable, (of_text _).2.1 _ unreadable⟩,
    wording ▸ (of_text _).2.2.1 _ no_date_text, wording ▸ (of_triple _).1 _ no_date,
    (of_text _).2.2.2 r converted_text, (of_triple _).2 r converted⟩

end Calendrics
