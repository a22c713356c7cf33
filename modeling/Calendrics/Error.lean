import Calendrics.Calendar
import Calendrics.Text.Decimal
import Calendrics.Triple

/-! Why a date or a text is refused. Each error holds what was given, and has one message. -/
namespace Calendrics

inductive Reason where
  | monthOutOfRange
  | dayOutOfRange (greatest : Nat)
  | outOfSupportedRange
  deriving DecidableEq, Repr

def Reason.message : Reason → String
  | monthOutOfRange => "month must be 1-" ++ Decimal.text monthsInYear
  | dayOutOfRange greatest => "day must be 1-" ++ Decimal.text greatest
  | outOfSupportedRange => "outside the supported Julian day range"

/-- A triple that is no date of a calendar. -/
structure DateError where
  calendar : Calendar
  triple : Triple
  reason : Reason
  deriving DecidableEq, Repr

/-- Names the calendar, the triple with its year unpadded, and the reason. -/
def DateError.message (e : DateError) : String :=
  "Invalid " ++ e.calendar.name ++ " date " ++ Decimal.text e.triple.year ++ "-" ++
    String.ofList (Decimal.padded 2 e.triple.month) ++ "-" ++
    String.ofList (Decimal.padded 2 e.triple.day) ++ ": " ++ e.reason.message

inductive ReadError where
  | empty
  | badFormat (text : String)
  | unknownCalendar (text : String)
  | invalidDate (error : DateError)
  deriving DecidableEq, Repr

def ReadError.message : ReadError → String
  | empty => "Empty date string"
  | badFormat text => "Invalid date format: " ++ text ++ " (expected YYYY-MM-DD)"
  | unknownCalendar text => "Unknown calendar: " ++ text ++ " (expected gregorian or hijri)"
  | invalidDate error => error.message

end Calendrics
