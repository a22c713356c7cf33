import Calendrics.Proofs.CommandLine.Filtering
import Calendrics.Proofs.CommandLine.Outcome

/-! Round trips through the command line. Each conversion command, called with the written form of a
date as it is, prints the date of the same day on the other calendar; so the two commands undo each
other, also before year zero, where the written form begins with a hyphen. Main statement:
`command_line_round_trips`. -/
namespace Calendrics.CommandLine

structure Response.Prints (r : Response) (line : String) : Prop where
  exit : r.exit = 0
  output : r.output = line ++ "\n"
  one_line : Unbroken line
  silent : r.messages = []

/- The written form needs no `--`. Without verbose flags the events of the run are not let
through. -/
theorem prints_of_text (direction : Direction) {d : TaggedDate} (own : d.calendar = direction.source) :
    (respond [Form.name (.convert direction), d.text] none).Prints
      (d.toCalendar direction.target).text := by
  let command : Command := .convert direction d.text
  have reads : TaggedDate.read command.source command.date.toList = .ok d := by
    change TaggedDate.read direction.source d.text.toList = .ok d
    rw [← own]
    exact d.read_text
  have answer : respond [Form.name (.convert direction), d.text] none =
      .ran (command.run false) (.ofVerbosity 0) :=
    (Usage.plain (.convert direction)).respond_bare none (TaggedDate.read_eq_ok_iff.mp reads).2
  obtain ⟨events, reports, run⟩ := Command.run_of_read false reads
  rw [answer, run]
  constructor
  · rfl
  · exact (Command.dateLine_eq false (d.toCalendar direction.target)).symm
  · exact TaggedDate.unbroken_text _
  · rw [Response.messages, Report.messages_success _ reports, Filter.select_quiet]
    rfl

/-- Every date is printed as the date of its day on the other calendar, which is printed as the
date. -/
theorem command_line_round_trips (direction : Direction) (d : Date direction.source) :
    ∃ h : Date direction.target, h.dayNumber = d.dayNumber ∧
      (respond [Form.name (.convert direction), d.text] none).Prints h.text ∧
      (respond [Form.name (.convert direction.reverse), h.text] none).Prints d.text := by
  let own : TaggedDate := ⟨direction.source, d⟩
  let far : TaggedDate := own.toCalendar direction.target
  have same_day : far.dayNumber = own.dayNumber := (TaggedDate.toCalendar_eq_iff.mp rfl).2
  -- The date of a day on the calendar of the date itself is the date.
  have back : far.toCalendar direction.reverse.target = own := by
    rw [direction.target_reverse]
    exact TaggedDate.toCalendar_eq_iff.mpr ⟨rfl, same_day.symm⟩
  refine ⟨far.date, same_day, prints_of_text (d := own) direction rfl, ?_⟩
  have again := prints_of_text (d := far) direction.reverse direction.source_reverse.symm
  rw [back] at again
  exact again

example : (respond ["to-hijri", "-0044-03-15"] none).output = "-0686-03-15\n" := by decide

example : (respond ["to-gregorian", "-0686-03-15"] none).output = "-0044-03-15\n" := by decide

end Calendrics.CommandLine
