import Calendrics.Error
import Calendrics.Text.Blank

/-! Calendars as text. A calendar answers to several names; case and blanks around them do not
count. -/
namespace Calendrics.Calendar

/-- The names that a calendar answers to, in lower case. -/
def aliases : Calendar → List String
  | gregorian => ["gregorian", "g"]
  | hijri => ["hijri", "h", "islamic"]

/-- A text less the blanks around it, its ASCII letters in lower case. -/
def folded (input : String) : String :=
  String.ofList ((Text.trim input.toList).map Char.toLower)

def read (input : String) : Except ReadError Calendar :=
  if folded input ∈ gregorian.aliases then .ok gregorian
  else if folded input ∈ hijri.aliases then .ok hijri
  else .error (.unknownCalendar input)

end Calendrics.Calendar
