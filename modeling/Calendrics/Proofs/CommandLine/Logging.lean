import Mathlib.Data.List.Basic
import Calendrics.Proofs.CommandLine.Call
import Calendrics.Proofs.CommandLine.Filtering
import Calendrics.Proofs.CommandLine.Outcome

/-! The log and the result of a run. The verbose flags and the text for the log choose among the
events of a run and change nothing else: all calls of a command in one output mode have the exit
code, the output and the Error text of its report, and before the Error text they write the lines of
the chosen events. With more verbose flags no event is lost. Main statement: `log_stays_apart`. -/
namespace Calendrics.CommandLine

def shownLevels : Nat → List Level
  | 0 => [.error, .warn]
  | 1 => [.error, .warn, .info]
  | 2 => [.error, .warn, .info, .debug]
  | _ => [.error, .warn, .info, .debug, .trace]

def Report.shownAt (r : Report) (verbosity : Nat) : List Event :=
  r.events.filter fun e => e.level ∈ shownLevels verbosity

/-- A response with the result of a report, and with these events in its log. What is written
beside the output is the lines of the events, then the Error text if there is one, each from a new
line on. -/
structure Response.Shows (r : Response) (report : Report) (log : List Event) : Prop where
  exit : r.exit = report.exit
  output : r.output = report.output
  written : ∃ texts, List.Forall₂ Event.Wording log texts ∧
    r.Writes (texts ++ report.error.toList.map ("Error: " ++ ·))

theorem Response.ran_shows (report : Report) (f : Filter) :
    (ran report f).Shows report (f.select report.events) where
  exit := rfl
  output := rfl
  written := ⟨_, (forall₂_iff_eq_map Event.wording_iff).mpr rfl, ran_writes report f⟩

theorem rank_thresholdOf (verbosity : Nat) :
    (Filter.thresholdOf verbosity).rank = min (verbosity + 2) 5 := by
  match verbosity with
  | 0 | 1 | 2 => rfl
  | _ + 3 => simp [Filter.thresholdOf, Level.rank]

theorem mem_shownLevels_iff (level : Level) (verbosity : Nat) :
    level ∈ shownLevels verbosity ↔ level.rank ≤ (Filter.thresholdOf verbosity).rank := by
  match verbosity with
  | 0 | 1 | 2 => cases level <;> decide
  | _ + 3 => cases level <;> simp [shownLevels, Filter.thresholdOf, Level.rank]

theorem shownLevels_subset {verbosity louder : Nat} (h : verbosity ≤ louder) :
    shownLevels verbosity ⊆ shownLevels louder := by
  intro level shown
  rw [mem_shownLevels_iff, rank_thresholdOf] at shown ⊢
  omega

theorem Report.shownAt_sublist (r : Report) {verbosity louder : Nat} (h : verbosity ≤ louder) :
    (r.shownAt verbosity).Sublist (r.shownAt louder) := by
  apply List.monotone_filter_right
  intro e shown
  rw [decide_eq_true_eq] at shown ⊢
  exact shownLevels_subset h shown

namespace Filter

theorem select_ofVerbosity (verbosity : Nat) (report : Report) :
    (ofVerbosity verbosity).select report.events = report.shownAt verbosity :=
  List.filter_congr fun e _ => decide_eq_decide.mpr
    (admits_ofVerbosity_iff.trans (mem_shownLevels_iff e.level verbosity).symm)

theorem select_sublist (f : Filter) (events : List Event) : (f.select events).Sublist events :=
  List.filter_sublist

end Filter

/-- Every command can be called at every verbosity and in either output mode, and it has one report:
however it is called, and whatever the text for the log, the exit code, the output and the Error
text are those of the report, and the log is made of events of the report, in order. Without such a
text these are the events of the levels that are shown at the verbosity, so that louder calls show
the same events and perhaps others between them. -/
theorem log_stays_apart (command : Command) (json : Bool) :
    (∀ verbosity, parse (command.call verbosity json) = .ok ⟨verbosity, json, command⟩) ∧
    ∃ report, command.Yields json report ∧
      (∀ arguments verbosity, parse arguments = .ok ⟨verbosity, json, command⟩ →
        ∀ log : Option String, ∃ chosen, (respond arguments log).Shows report chosen ∧
          chosen.Sublist report.events ∧
          (log = none → chosen = report.shownAt verbosity)) ∧
      ∀ verbosity louder, verbosity ≤ louder →
        (report.shownAt verbosity).Sublist (report.shownAt louder) := by
  refine ⟨fun verbosity => parse_call command verbosity json, command.run json,
    command.yields_run json, ?_, ?_⟩
  · intro arguments verbosity parsed log
    have answer : respond arguments log = .ran (command.run json) (logFilter log verbosity) := by
      rw [respond, parsed]
    rw [answer]
    refine ⟨_, Response.ran_shows _ _, Filter.select_sublist _ _, ?_⟩
    rintro rfl
    exact Filter.select_ofVerbosity verbosity _
  · intro verbosity louder more
    exact Report.shownAt_sublist _ more

/- A conversion with one verbose flag, after the command, and with three and a bad text for the
log. -/
theorem conversion_is_logged_apart :
    let command := Command.convert .hijriToGregorian " 1445-9-1"
    let arguments := ["to-gregorian", "--verbose", " 1445-9-1", "--json"]
    let line := "INFO hijri: converted direction=Hijri to Gregorian input=\" 1445-9-1\" converted=2024-03-11"
    parse arguments = .ok ⟨1, true, command⟩ ∧ 1 ≤ 3 ∧
      (respond arguments none).messages = [line] ∧
      ∃ report, command.Yields true report ∧
        (respond arguments none).Shows report (report.shownAt 1) ∧
        (∃ chosen, (respond (command.call 3 true) (some "hijri=loud")).Shows report chosen) ∧
        (report.shownAt 1).Sublist (report.shownAt 3) := by
  intro command arguments line
  have parsed : parse arguments = .ok ⟨1, true, command⟩ := by decide
  have written : (respond arguments none).messages = [line] := by decide +kernel
  obtain ⟨calls, report, yields, answers, louder⟩ := log_stays_apart command true
  obtain ⟨chosen, shows_log, -, by_level⟩ := answers arguments 1 parsed none
  obtain ⟨chosen', shows_log', -, -⟩ := answers _ 3 (calls 3) (some "hijri=loud")
  rw [by_level rfl] at shows_log
  exact ⟨parsed, by decide, written, report, yields, shows_log, ⟨chosen', shows_log'⟩,
    louder 1 3 (by decide)⟩

end Calendrics.CommandLine
