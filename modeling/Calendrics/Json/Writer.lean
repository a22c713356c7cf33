import Calendrics.TaggedDate

/-! Months, days, dates, calendars and records as compact JSON. None of the strings written holds a
character that JSON escapes. -/
namespace Calendrics.Json

/-- A string of characters that JSON does not escape. -/
def string (s : String) : String := "\"" ++ s ++ "\""

def member (key value : String) : String := string key ++ ":" ++ value

def object (members : List String) : String := "\x7b" ++ ",".intercalate members ++ "\x7d"

end Calendrics.Json

namespace Calendrics

def Date.json {c : Calendar} (d : Date c) : String := Json.string d.text

def Month.json (m : Month) : String := Decimal.text m.value

def DayNumber.json (j : DayNumber) : String := Decimal.text j.value

def Calendar.json (c : Calendar) : String := Json.string c.key

def Direction.json (d : Direction) : String := Json.string d.key

/-- A tagged date names its calendar before its text. -/
def TaggedDate.json (d : TaggedDate) : String :=
  Json.object [Json.member "calendar" d.calendar.json, Json.member "date" d.date.json]

/-- A record gives its day number, then its dates. -/
def DayRecord.json (r : DayRecord) : String :=
  Json.object [Json.member "jdn" r.day.json, Json.member "gregorian" r.gregorian.json,
    Json.member "hijri" r.hijri.json]

end Calendrics
