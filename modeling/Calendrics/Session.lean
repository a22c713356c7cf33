import Calendrics.TaggedDate

/-! A session holds one tagged date and changes it step by step. A step that fails leaves the date
as it was. -/
namespace Calendrics.Session

inductive Step where
  | set (calendar : Calendar) (triple : Triple)
  | read (calendar : Calendar) (text : String)
  | to (calendar : Calendar)
  | swap
  | day (day : DayNumber)
  | shift (days : Int)
  | reread
  | replace (year : Option Int) (month day : Option Nat)
  | reprint
  deriving DecidableEq

inductive StepError where
  | refused (error : ReadError)
  | shiftOutOfRange
  deriving DecidableEq

def start : TaggedDate := .ofDayNumber .gregorian ⟨Gregorian.dayOf2000, by decide⟩

def accept (c : Calendar) (t : Triple) : Except StepError TaggedDate :=
  (TaggedDate.ofTriple c t).mapError fun e => .refused (.invalidDate e)

def acceptText (c : Calendar) (cs : List Char) : Except StepError TaggedDate :=
  (TaggedDate.read c cs).mapError .refused

def apply (d : TaggedDate) : Step → Except StepError TaggedDate
  | .set c t => accept c t
  | .read c text => acceptText c text.toList
  | .to c => .ok (d.toCalendar c)
  | .swap => .ok (d.toCalendar d.calendar.other)
  | .day j => .ok (.ofDayNumber d.calendar j)
  | .shift days =>
    match DayNumber.ofInt? (d.dayNumber.value + days) with
    | some j => .ok (.ofDayNumber d.calendar j)
    | none => .error .shiftOutOfRange
  | .reread => accept d.calendar.other d.triple
  | .replace year month day => accept d.calendar (d.triple.withParts year month day)
  | .reprint => acceptText d.calendar d.triple.written

/-- The date after a step: the old one if the step fails. -/
def next (d : TaggedDate) (s : Step) : TaggedDate :=
  match apply d s with
  | .ok d' => d'
  | .error _ => d

def run (d : TaggedDate) (steps : List Step) : TaggedDate := steps.foldl next d

def answers (d : TaggedDate) : List Step → List (Except StepError TaggedDate)
  | [] => []
  | s :: steps => apply d s :: answers (next d s) steps

theorem next_of_error {d : TaggedDate} {s : Step} {e : StepError} (h : apply d s = .error e) :
    next d s = d := by
  simp only [next, h]

theorem next_of_ok {d d' : TaggedDate} {s : Step} (h : apply d s = .ok d') : next d s = d' := by
  simp only [next, h]

end Calendrics.Session
