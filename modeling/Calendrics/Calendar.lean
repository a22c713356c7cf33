/-! The two calendars and the two directions of conversion between them. A calendar has a name for
messages and a key for data; both are read off the constructor. -/
namespace Calendrics

inductive Calendar where
  | gregorian
  | hijri
  deriving DecidableEq, Repr

namespace Calendar

/-- The name used in messages. -/
def name : Calendar → String
  | gregorian => "Gregorian"
  | hijri => "Hijri"

/-- The key used in data. -/
def key : Calendar → String
  | gregorian => "gregorian"
  | hijri => "hijri"

def other : Calendar → Calendar
  | gregorian => hijri
  | hijri => gregorian

/-- The calendar with exactly this key. -/
def ofKey? (key : String) : Option Calendar :=
  if key = gregorian.key then some gregorian
  else if key = hijri.key then some hijri
  else none

theorem ofKey?_key (c : Calendar) : ofKey? c.key = some c := by
  cases c <;> decide

theorem other_other (c : Calendar) : c.other.other = c := by
  cases c <;> rfl

end Calendar

inductive Direction where
  | gregorianToHijri
  | hijriToGregorian
  deriving DecidableEq, Repr

namespace Direction

/-- The calendar that the input is read in. -/
def source : Direction → Calendar
  | gregorianToHijri => .gregorian
  | hijriToGregorian => .hijri

def target : Direction → Calendar
  | gregorianToHijri => .hijri
  | hijriToGregorian => .gregorian

def reverse : Direction → Direction
  | gregorianToHijri => hijriToGregorian
  | hijriToGregorian => gregorianToHijri

def name : Direction → String
  | gregorianToHijri => "Gregorian to Hijri"
  | hijriToGregorian => "Hijri to Gregorian"

def key : Direction → String
  | gregorianToHijri => "gregorian_to_hijri"
  | hijriToGregorian => "hijri_to_gregorian"

def ofKey? (key : String) : Option Direction :=
  if key = gregorianToHijri.key then some gregorianToHijri
  else if key = hijriToGregorian.key then some hijriToGregorian
  else none

theorem ofKey?_key (d : Direction) : ofKey? d.key = some d := by
  cases d <;> decide

theorem source_reverse (d : Direction) : d.reverse.source = d.target := by
  cases d <;> rfl

theorem target_reverse (d : Direction) : d.reverse.target = d.source := by
  cases d <;> rfl

end Direction

end Calendrics
