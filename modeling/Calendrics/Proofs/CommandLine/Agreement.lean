import Calendrics.Proofs.CommandLine.Call
import Calendrics.Proofs.CommandLine.Outcome
import Calendrics.Proofs.Json.RoundTrip

/-! The commands and the output modes say the same. A date is shown as the conversion commands print
it, with a day number that gives both dates; and the JSON line of a command is read back as the
value whose parts the plain lines print. Main statement: `commands_and_modes_agree`. -/
namespace Calendrics

/-- The text that is written for the date that another text is read as. -/
def Triple.IsCanonicalFor (text input : String) : Prop :=
  ∃ s : Spelling, s.Canonical ∧ s.text = text.toList ∧ read input.toList = .ok s.triple

theorem Date.isCanonicalFor_text {c : Calendar} {d : Date c} {input : String}
    (h : read c input.toList = .ok d) : Triple.IsCanonicalFor d.text input := by
  obtain ⟨canonical, triple⟩ := (d.canonical_spelling_iff d.triple.spelling).mpr rfl
  refine ⟨d.triple.spelling, canonical, ?_, ?_⟩
  · rw [Triple.spelling_text, d.toList_text]
  · rw [triple]
    exact read_eq_ok_iff.mp h

namespace CommandLine

def showArguments : Calendar → String → List String
  | .gregorian, date => ["show", date]
  | .hijri, date => ["show", "-c", "hijri", date]

def dayLines (day gregorian hijri : String) : List String :=
  ["JDN: " ++ day, "GREGORIAN: " ++ gregorian, "HIJRI: " ++ hijri]

section

variable {date : String} {log : Option String}

theorem show_succeeds {c : Calendar} {d : Date c} (h : Date.read c date.toList = .ok d) :
    (respond (showArguments c date) log).Succeeds
      (dayLines (Decimal.text d.dayNumber.value) (Date.ofDayNumber .gregorian d.dayNumber).text
        (Date.ofDayNumber .hijri d.dayNumber).text) := by
  have reads := TaggedDate.read_of_date h
  have success : (respond (showArguments c date) log).Succeeds
      ((Command.display c date).result false ⟨c, d⟩) := by
    cases c with
    | gregorian => exact (Usage.plain .display).bare_succeeds_of_read log reads
    | hijri => exact (Usage.showing 0 false .hijri).bare_succeeds_of_read log reads
  exact success

theorem convert_succeeds {direction : Direction} {d : Date direction.source}
    (h : Date.read direction.source date.toList = .ok d) :
    (respond [Form.name (.convert direction), date] log).Succeeds
      [(Date.ofDayNumber direction.target d.dayNumber).text] := by
  have reads := TaggedDate.read_of_date h
  have success : (respond [Form.name (.convert direction), date] log).Succeeds
      [(TaggedDate.toCalendar ⟨direction.source, d⟩ direction.target).text] :=
    (Usage.plain (.convert direction)).bare_succeeds_of_read log reads
  rw [TaggedDate.toCalendar_eq] at success
  exact success

end

namespace Command

/-- The plain lines are the parts of the value that the JSON line is read back as. -/
def PrintsPartsOf (plain : List String) (json : String) : Command → Prop
  | convert direction _ => ∃ d, Json.read Json.readTaggedDate json = .ok d ∧
      d.calendar = direction.target ∧ plain = [d.text]
  | display .. => ∃ r, Json.read Json.readDayRecord json = .ok r ∧
      plain = dayLines (Decimal.text r.day.value) r.gregorian.text r.hijri.text

theorem run_mode (command : Command) :
    (command.run true).exit = (command.run false).exit ∧
      (command.run true).events = (command.run false).events ∧
      (command.run true).error = (command.run false).error := by
  cases command with
  | convert direction date =>
    simp only [run]
    split <;> simp only [Report.success, Report.failure, and_self]
  | display calendar date =>
    simp only [run]
    split <;> simp only [Report.success, Report.failure, and_self]

theorem printsPartsOf_result (command : Command) (d : TaggedDate) :
    ∃ line, command.result true d = [line] ∧
      command.PrintsPartsOf (command.result false d) line := by
  cases command with
  | convert direction date =>
    let r := d.toCalendar direction.target
    exact ⟨r.json, rfl, r, Json.read_json .taggedDate r, rfl, rfl⟩
  | display calendar date =>
    let r := DayRecord.ofDate d
    exact ⟨r.json, rfl, r, Json.read_json .dayRecord r, rfl⟩

theorem read_of_exit {command : Command} {json : Bool} (h : (command.run json).exit = 0) :
    ∃ d, TaggedDate.read command.source command.date.toList = .ok d := by
  cases outcome : TaggedDate.read command.source command.date.toList with
  | ok d => exact ⟨d, rfl⟩
  | error e =>
    obtain ⟨error, events, failure, -⟩ := run_of_refused json outcome
    rw [failure] at h
    cases h

end Command

/-- A text that reads as a date is shown as one day: its day number, the canonical form of the date
and the date that the conversion command prints for the text, all of that day. In JSON and plain
output a command has one exit code and one error, and on success the JSON line is read back as the
value whose parts are the plain lines. Arguments in another form are answered as such a call. -/
theorem commands_and_modes_agree :
    (∀ (direction : Direction) (date : String) (log : Option String) (d : Date direction.source),
      Date.read direction.source date.toList = .ok d →
        ∃ j : DayNumber, let text (c : Calendar) := (Date.ofDayNumber c j).text
          (respond (showArguments direction.source date) log).Succeeds
            (dayLines (Decimal.text j.value) (text .gregorian) (text .hijri)) ∧
          (respond [Form.name (.convert direction), date] log).Succeeds [text direction.target] ∧
          Triple.IsCanonicalFor (text direction.source) date) ∧
    (∀ (command : Command) (verbosity : Nat) (log : Option String),
      let json := respond (command.call verbosity true) log
      let plain := respond (command.call verbosity false) log
      json.exit = plain.exit ∧ json.messages = plain.messages ∧
        (plain.exit = 0 → ∃ line lines, json.Succeeds [line] ∧ plain.Succeeds lines ∧
          command.PrintsPartsOf lines line)) ∧
    ∀ arguments i, parse arguments = .ok i →
      ∀ log, respond arguments log = respond (i.command.call i.verbosity i.json) log := by
  refine ⟨?_, ?_, fun _ _ => respond_eq_call⟩
  · intro direction date log d found
    have canonical := Date.isCanonicalFor_text found
    rw [← d.ofDayNumber_dayNumber] at canonical
    exact ⟨d.dayNumber, show_succeeds found, convert_succeeds found, canonical⟩
  · intro command verbosity log json plain
    have in_json : json = .ran (command.run true) (logFilter log verbosity) := respond_call _ _ _ _
    have in_plain : plain = .ran (command.run false) (logFilter log verbosity) := respond_call _ _ _ _
    obtain ⟨exit, events, error⟩ := command.run_mode
    rw [in_json, in_plain]
    refine ⟨exit, ?_, ?_⟩
    · simp only [Response.messages, Report.messages, events, error]
    · intro success
      obtain ⟨d, reads⟩ := Command.read_of_exit success
      obtain ⟨line, single, parts⟩ := command.printsPartsOf_result d
      have in_json := Command.succeeds_of_read true (logFilter log verbosity) reads
      rw [single] at in_json
      exact ⟨line, _, in_json, Command.succeeds_of_read false _ reads, parts⟩

/- The first day of the Hijri calendar, from a text that is not canonical. -/
theorem epoch_is_shown_as_converted :
    let date := " 1-1-1"
    let d : Date .hijri :=
      ⟨⟨1, 1, 1⟩, ⟨⟨by decide, by decide, by decide, by decide⟩, by decide⟩⟩
    let command := Command.display .hijri date
    Date.read .hijri date.toList = .ok d ∧
      (∃ j : DayNumber, let text (c : Calendar) := (Date.ofDayNumber c j).text
        (respond ["show", "-c", "hijri", date] none).Succeeds
          (dayLines (Decimal.text j.value) (text .gregorian) (text .hijri)) ∧
        (respond ["to-gregorian", date] none).Succeeds [text .gregorian] ∧
        Triple.IsCanonicalFor (text .hijri) date) ∧
      (respond (command.call 2 false) none).exit = 0 ∧
      (∃ line lines, (respond (command.call 2 true) none).Succeeds [line] ∧
        (respond (command.call 2 false) none).Succeeds lines ∧ command.PrintsPartsOf lines line) ∧
      parse ["show", "-vv", "-c", "h", "--", date] = .ok ⟨2, false, command⟩ ∧
      respond ["show", "-vv", "-c", "h", "--", date] none = respond (command.call 2 false) none := by
  intro date d command
  have found : Date.read .hijri date.toList = .ok d := by decide
  have success : (respond (command.call 2 false) none).exit = 0 := by decide
  have parsed : parse ["show", "-vv", "-c", "h", "--", date] = .ok ⟨2, false, command⟩ := by decide
  obtain ⟨commands, modes, as_call⟩ := commands_and_modes_agree
  exact ⟨found, commands .hijriToGregorian date none d found, success,
    (modes command 2 none).2.2 success, parsed, as_call _ _ parsed none⟩

example : (respond ["show", "2000-1-1"] none).output =
    "JDN: 2451545\nGREGORIAN: 2000-01-01\nHIJRI: 1420-09-24\n" := by decide

end CommandLine

end Calendrics
