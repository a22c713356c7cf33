import Calendrics.TaggedDate
import Calendrics.Text.Quoted

/-! What a run reports beside its answer. An event is kept as the values it speaks of; its level,
target, message and fields are read off it, and its line is made of those. -/
namespace Calendrics

/-- How much an event matters, the most pressing first. -/
inductive Level where
  | error
  | warn
  | info
  | debug
  | trace
  deriving DecidableEq, Repr

namespace Level

def name : Level → String
  | error => "ERROR"
  | warn => "WARN"
  | info => "INFO"
  | debug => "DEBUG"
  | trace => "TRACE"

/-- Higher for levels that matter less. -/
def rank : Level → Nat
  | error => 1
  | warn => 2
  | info => 3
  | debug => 4
  | trace => 5

end Level

inductive Event where
  | crossed (direction : Direction) (date : Date direction.source) (day : DayNumber)
      (result : Date direction.target)
  | refusedTriple (direction : Direction) (error : DateError)
  | refusedText (direction : Direction) (input : String) (error : ReadError)
  | converted (direction : Direction) (source result : TaggedDate)
  | answered (direction : Direction) (input : String) (result : TaggedDate)
  | shown (day : DayNumber)

namespace Event

def level : Event → Level
  | crossed .. => .trace
  | refusedTriple .. => .debug
  | refusedText .. => .debug
  | converted .. => .debug
  | answered .. => .info
  | shown .. => .info

/-- The part of the program that speaks: the conversions, or the commands. -/
def target : Event → String
  | crossed .. => "hijri_date::convert"
  | refusedTriple .. => "hijri_date::convert"
  | refusedText .. => "hijri_date::convert"
  | converted .. => "hijri_date::convert"
  | answered .. => "hijri"
  | shown .. => "hijri"

def message : Event → String
  | crossed direction _ _ _ => direction.source.key ++ " -> " ++ direction.target.key
  | refusedTriple .. => "rejected input"
  | refusedText .. => "rejected input"
  | converted .. => "converted"
  | answered .. => "converted"
  | shown .. => "show"

def quotedText (input : String) : String := String.ofList (Text.quoted input.toList)

def fields : Event → List (String × String)
  | crossed direction date day result =>
    [("date", date.text), ("jdn", Decimal.text day.value), (direction.target.key, result.text)]
  | refusedTriple direction error => [("direction", direction.name), ("err", error.message)]
  | refusedText direction input error =>
    [("direction", direction.name), ("input", quotedText input), ("err", error.message)]
  | converted direction source result =>
    [("direction", direction.name), ("source", source.text), ("converted", result.text)]
  | answered direction input result =>
    [("direction", direction.name), ("input", quotedText input), ("converted", result.text)]
  | shown day => [("jdn", Decimal.text day.value)]

/-- An event as one line of a log, unless a value it speaks of holds a line break. -/
def line (e : Event) : String :=
  e.level.name ++ " " ++ e.target ++ ": " ++ e.message ++
    String.join (e.fields.map fun f => " " ++ f.1 ++ "=" ++ f.2)

end Event

/-- A value with the events that led to it, in order. -/
structure Logged (α : Type) where
  value : α
  events : List Event

end Calendrics
