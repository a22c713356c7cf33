import Calendrics.CommandLine.Arguments
import Calendrics.CommandLine.Filter
import Calendrics.Conversion
import Calendrics.Json.Writer

/-! What a command line answers: a report with its exit code, its output, its events and the text of
its error. The report does not depend on the log; the log only chooses among its events. -/
namespace Calendrics.CommandLine

structure Report where
  exit : Nat
  output : String
  events : List Event
  error : Option String

namespace Report

def success (output : String) (events : List Event) : Report := ⟨0, output, events, none⟩

def failure (error : String) (events : List Event) : Report := ⟨1, "", events, some error⟩

end Report

def dateLine (json : Bool) (d : TaggedDate) : String :=
  (if json then d.json else d.text) ++ "\n"

def recordLines (json : Bool) (r : DayRecord) : String :=
  if json then r.json ++ "\n"
  else
    "JDN: " ++ Decimal.text r.day.value ++ "\nGREGORIAN: " ++ r.gregorian.text ++ "\nHIJRI: " ++
      r.hijri.text ++ "\n"

def cannotConvert (direction : Direction) (date : String) (e : ReadError) : String :=
  "cannot convert " ++ Event.quotedText date ++ " (" ++ direction.name ++ "): " ++ e.message

def cannotRead (calendar : Calendar) (date : String) (e : ReadError) : String :=
  "cannot read " ++ Event.quotedText date ++ " as a " ++ calendar.name ++ " date: " ++ e.message

def Command.run (json : Bool) : Command → Report
  | .convert direction date =>
    let answer := direction.convertText date
    match answer.value with
    | .ok d => .success (dateLine json d) (answer.events ++ [.answered direction date d])
    | .error e => .failure (cannotConvert direction date e) answer.events
  | .display calendar date =>
    match TaggedDate.read calendar date.toList with
    | .ok d =>
      let record := DayRecord.ofDate d
      .success (recordLines json record) [.shown record.day]
    | .error e => .failure (cannotRead calendar date e) []

def linesOf (text : String) : List String := (text.toList.splitOn '\n').map String.ofList

def errorLine (error : String) : String := "Error: " ++ error

/-- The lines of a report that go beside its output: the events that a filter lets through, then the
error. -/
def Report.messages (r : Report) (f : Filter) : List String :=
  ((f.select r.events).map Event.line ++ r.error.toList.map errorLine).flatMap linesOf

/-- The filter of a run: that of the text for it, if there is one and it is good, else that of the
verbosity. -/
def logFilter (log : Option String) (verbosity : Nat) : Filter :=
  (log.bind Filter.read).getD (Filter.ofVerbosity verbosity)

inductive Response where
  | stopped (reason : Stop)
  | ran (report : Report) (filter : Filter)

def versionLine : String := "hijri 0.1.0\n"

namespace Response

def exit : Response → Nat
  | stopped .usage => 2
  | stopped _ => 0
  | ran report _ => report.exit

/-- The explanations of use are left out. -/
def output : Response → String
  | stopped .version => versionLine
  | stopped _ => ""
  | ran report _ => report.output

def messages : Response → List String
  | stopped _ => []
  | ran report filter => report.messages filter

end Response

def respond (arguments : List String) (log : Option String) : Response :=
  match parse arguments with
  | .error reason => .stopped reason
  | .ok invocation =>
    .ran (invocation.command.run invocation.json) (logFilter log invocation.verbosity)

end Calendrics.CommandLine
