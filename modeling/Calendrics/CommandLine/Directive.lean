import Calendrics.Event
import Calendrics.Pattern.WellFormed
import Calendrics.Text.Bytes
import Calendrics.Text.Number

/-! The rules that choose among events, and their text: a target, a span between brackets with a
field between braces, and a threshold after an equals sign, each of which may be left out. The parts
are found in the text less the blanks around it and cut out of the text with them, at the same
places; so blanks at the end belong to the last part, and blanks in front shift every part. -/
namespace Calendrics.CommandLine

/-- How much a directive lets through: nothing, or the events that matter at least this much. -/
abbrev Threshold := Option Level

def Threshold.Admits (threshold : Threshold) (level : Level) : Prop :=
  match threshold with
  | none => False
  | some least => level.rank ≤ least.rank

instance (threshold : Threshold) (level : Level) : Decidable (Threshold.Admits threshold level) :=
  match threshold with
  | none => isFalse id
  | some least => inferInstanceAs (Decidable (level.rank ≤ least.rank))

def thresholdNames : List (String × Threshold) :=
  [("off", none), ("error", some .error), ("warn", some .warn), ("info", some .info),
    ("debug", some .debug), ("trace", some .trace)]

/-- Digits, with a plus sign in front or not. -/
def unsignedNumber : List Char → Option Nat
  | '+' :: cs => Decimal.read 5 cs
  | cs => Decimal.read 5 cs

/-- The threshold of a text: its place in the list of names, or a name in either case. -/
def Threshold.read (cs : List Char) : Option Threshold :=
  match unsignedNumber cs with
  | some n => (thresholdNames[n]?).map (·.2)
  | none => thresholdNames.lookup (String.ofList (cs.map Char.toLower))

/-- A rule of a filter: the targets it speaks of, by their beginning, the fields that an event
must have, and the threshold. A rule in a span speaks only of events inside a span, and there are
none. -/
structure Directive where
  target : Option (List Char)
  fields : List String
  inSpan : Bool
  threshold : Threshold
  deriving DecidableEq

namespace Directive

def IsValue (cs : List Char) : Prop := Decimal.IsNumber cs ∨ IsPattern cs

instance (cs : List Char) : Decidable (IsValue cs) := inferInstanceAs (Decidable (_ ∨ _))

/-- A field: its name, and whether a value is asked for. What follows a second equals sign does not
count. -/
def readField (cs : List Char) : Option (String × Bool) :=
  let name := cs.takeWhile (· ≠ '=')
  match cs.drop name.length with
  | [] => if name = [] then none else some (String.ofList name, false)
  | _ :: value =>
    if IsValue (value.takeWhile (· ≠ '=')) then some (String.ofList name, true) else none

/-- What follows the target and the span, at a place of the text: nothing or an equals sign, which
let all through, or an equals sign and the threshold. -/
def readThreshold (cs : List Char) (place : Nat) : List Char → Option Threshold
  | [] => some (some .trace)
  | '=' :: _ => do
    let threshold ← Text.dropBytes (place + 1) cs
    if threshold = [] then some (some .trace) else Threshold.read threshold
  | _ => none

/-- A span after its opening bracket, at a place of the text: a name, a field between braces, or
both. A name or a value puts the rule in a span. -/
def readSpan (cs : List Char) (target : Option (List Char)) (place : Nat) (text : List Char) :
    Option Directive :=
  let name := text.takeWhile fun c => c ≠ ']' && c ≠ '\x7b'
  let stop := place + Text.bytes name
  match text.drop name.length with
  | ']' :: rest => do
    let _ ← Text.cut place stop cs
    let threshold ← readThreshold cs (stop + 1) rest
    return ⟨target, [], true, threshold⟩
  | '\x7b' :: more =>
    let field := more.takeWhile (· ≠ '\x7d')
    let last := stop + 1 + Text.bytes field
    match more.drop field.length with
    | '\x7d' :: ']' :: rest => do
      let span ← Text.cut place stop cs
      let field ← (Text.cut (stop + 1) last cs).bind readField
      let threshold ← readThreshold cs (last + 2) rest
      return ⟨target, [field.1], span ≠ [] || field.2, threshold⟩
    | _ => none
  | _ => none

def isOpening (c : Char) : Bool := Text.isAlphanumeric c || c = '-' || c = ':' || c = '_'

/-- A rule. A word alone is a threshold if it reads as one, and else a target. -/
def read (cs : List Char) : Option Directive :=
  let text := Text.trim cs
  let word := text.takeWhile fun c => c ≠ '=' && c ≠ '['
  match word with
  | [] => if text.head? = some '[' then readSpan cs none 1 (text.drop 1) else none
  | c :: _ =>
    if isOpening c then
      match text.drop word.length with
      | [] =>
        match Threshold.read cs with
        | some threshold => some ⟨none, [], false, threshold⟩
        | none => some ⟨some cs, [], false, some .trace⟩
      | '[' :: rest => do
        let target ← Text.cut 0 (Text.bytes word) cs
        readSpan cs (some target) (Text.bytes word + 1) rest
      | rest => do
        let target ← Text.cut 0 (Text.bytes word) cs
        let threshold ← readThreshold cs (Text.bytes word) rest
        return ⟨some target, [], false, threshold⟩
    else none

end Directive

end Calendrics.CommandLine
