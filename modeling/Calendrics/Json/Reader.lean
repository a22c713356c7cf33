import Calendrics.Json.Value
import Calendrics.TaggedDate

/-! Months, days, dates, calendars and records read from JSON. The readers go through a value from
left to right and stop at the first fault: text of the wrong shape is `malformed`, a text or number
of the right shape that is no date or month is refused with its reason. -/
namespace Calendrics.Json

inductive Failure where
  | malformed
  | refused (error : ReadError)
  | refusedMonth (reason : Reason)
  deriving DecidableEq

/-- The wording of a refusal; a malformed text has none. -/
def Failure.message? : Failure → Option String
  | malformed => none
  | refused error => some error.message
  | refusedMonth reason => some reason.message

abbrev Reader (α : Type) := Value → Except Failure α

def require {α : Type} : Option α → Except Failure α
  | some a => .ok a
  | none => .error .malformed

def ensure (p : Prop) [Decidable p] : Except Failure Unit :=
  if p then .ok () else .error .malformed

def readString : Reader (List Char)
  | .string units => require (characters units)
  | _ => .error .malformed

def readDate (c : Calendar) : Reader (Date c) := fun v => do
  let cs ← readString v
  (Date.read c cs).mapError .refused

def readDay : Reader DayNumber
  | .integer n => require (DayNumber.ofInt? n)
  | _ => .error .malformed

/-- The greatest number that is taken for a month; calendars have none beyond the twelfth. -/
def greatestMonth : Int := 255

def readMonth : Reader Month
  | .integer n =>
    if 0 ≤ n ∧ n ≤ greatestMonth then (Month.ofNat n.toNat).mapError .refusedMonth
    else .error .malformed
  | _ => .error .malformed

def readKey {α : Type} (ofKey? : String → Option α) : Reader α
  | .string units => do
    let key ← require (characters units)
    require (ofKey? (String.ofList key))
  | _ => .error .malformed

/-- A constant, from its key or from an object with that key alone and nothing under it. -/
def readConstant {α : Type} (ofKey? : String → Option α) : Reader α
  | .object [(units, .null)] true => readKey ofKey? (.string units)
  | v => readKey ofKey? v

def readCalendar : Reader Calendar := readConstant Calendar.ofKey?

def readDirection : Reader Direction := readConstant Direction.ofKey?

/-- The members of an object up to the first whose key is no text, and whether those are all. -/
def named : List (Units × Value) → List (String × Value) × Bool
  | [] => ([], true)
  | (units, v) :: members =>
    match characters units with
    | some key => ((String.ofList key, v) :: (named members).1, (named members).2)
    | none => ([], false)

def calendarKey : String := "calendar"

def dateKey : String := "date"

/-- A tagged date from its calendar and its text, if nothing is wrong with what follows. -/
def readTagged (tag : Except Failure Calendar) (text : Value) (rest : Prop) [Decidable rest] :
    Except Failure TaggedDate := do
  let c ← tag
  let d ← readDate c text
  ensure rest
  return ⟨c, d⟩

/-- A tagged date, from an object of calendar and text in either order or from an array of the two,
in which the calendar is given by its key alone. Other members do not count; a second member of
either key does. -/
def readTaggedDate : Reader TaggedDate
  | .array (tag :: text :: rest) complete =>
    readTagged (readKey Calendar.ofKey? tag) text (rest = [] ∧ complete)
  | .object members complete =>
    let (pairs, whole) := named members
    match pairs.filter fun m => m.1 = calendarKey ∨ m.1 = dateKey with
    | (k, v) :: (l, w) :: rest =>
      if k = calendarKey ∧ l = dateKey then
        readTagged (readCalendar v) w (rest = [] ∧ whole ∧ complete)
      else if k = dateKey ∧ l = calendarKey then
        readTagged (readCalendar w) v (rest = [] ∧ whole ∧ complete)
      else .error .malformed
    | _ => .error .malformed
  | _ => .error .malformed

/-- The parts of a record that have been read. -/
structure Draft where
  day : Option DayNumber
  gregorian : Option (Date .gregorian)
  hijri : Option (Date .hijri)

def dayKey : String := "jdn"

/-- One member of a record. A part that has been read may not come again. -/
def Draft.add (draft : Draft) (key : String) (v : Value) : Except Failure Draft :=
  if key = dayKey then do
    ensure (draft.day.isNone)
    let j ← readDay v
    return { draft with day := some j }
  else if key = Calendar.gregorian.key then do
    ensure (draft.gregorian.isNone)
    let d ← readDate .gregorian v
    return { draft with gregorian := some d }
  else if key = Calendar.hijri.key then do
    ensure (draft.hijri.isNone)
    let d ← readDate .hijri v
    return { draft with hijri := some d }
  else return draft

def Draft.empty : Draft := ⟨none, none, none⟩

def Draft.addAll (draft : Draft) (members : List (String × Value)) : Except Failure Draft :=
  members.foldlM (fun (d : Draft) m => d.add m.1 m.2) draft

def Draft.finish (draft : Draft) : Except Failure DayRecord := do
  let j ← require draft.day
  let g ← require draft.gregorian
  let h ← require draft.hijri
  return ⟨j, g, h⟩

/-- A record, from an object with its three parts in any order or from an array of them. The parts
are not checked against each other. -/
def readDayRecord : Reader DayRecord
  | .array items complete => do
    let j ← readDay (← require items[0]?)
    let g ← readDate .gregorian (← require items[1]?)
    let h ← readDate .hijri (← require items[2]?)
    ensure (items.length = 3 ∧ complete)
    return ⟨j, g, h⟩
  | .object members complete => do
    let (pairs, whole) := named members
    let draft ← Draft.empty.addAll pairs
    ensure (whole ∧ complete)
    draft.finish
  | _ => .error .malformed

/-- Reads a whole text. What follows the value is looked at last. -/
def read {α : Type} (reader : Reader α) (text : String) : Except Failure α := do
  let (v, rest) := build .value [] (tokens text.toList)
  let a ← reader (← require v)
  ensure (rest = [])
  return a

end Calendrics.Json
