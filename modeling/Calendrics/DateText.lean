import Calendrics.Error
import Calendrics.Text.Blank

/-! Dates as text: a year of at least four digits with its sign, a month and a day of at least two,
joined by hyphens. The reader asks less than the writer gives: blanks around the text do not count,
and a component may have any number of digits as long as its value fits. -/
namespace Calendrics.Triple

/-- What stands between the components, and before a negative year. -/
def separator : Char := '-'

/-- The greatest year, on either side of zero, that is read. -/
def greatestYear : Nat := 2147483647

/-- The greatest month or day that is read; calendars refuse most of these. -/
def greatestPart : Nat := 255

def sign (year : Int) : List Char := if year < 0 then [separator] else []

def written (t : Triple) : List Char :=
  sign t.year ++ Decimal.padded 4 t.year.natAbs ++ separator :: Decimal.padded 2 t.month ++
    separator :: Decimal.padded 2 t.day

def text (t : Triple) : String := String.ofList t.written

/-- Whether a text opens with a sign, and what follows the sign. -/
def splitSign : List Char → Bool × List Char
  | [] => (false, [])
  | c :: cs => if c = separator then (true, cs) else (false, c :: cs)

def ofFields (negative : Bool) : List (List Char) → Option Triple
  | [year, month, day] => do
    let magnitude ← Decimal.read greatestYear year
    let month ← Decimal.read greatestPart month
    let day ← Decimal.read greatestPart day
    return ⟨if negative then -(magnitude : Int) else magnitude, month, day⟩
  | _ => none

def ofTrimmed (cs : List Char) : Option Triple :=
  ofFields (splitSign cs).1 ((splitSign cs).2.splitOn separator)

/-- Reads a triple, blanks around it aside; no calendar has checked it yet. -/
def read (cs : List Char) : Except ReadError Triple :=
  let trimmed := Text.trim cs
  if trimmed = [] then .error .empty
  else
    match ofTrimmed trimmed with
    | some t => .ok t
    | none => .error (.badFormat (String.ofList trimmed))

end Calendrics.Triple
