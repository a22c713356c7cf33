import Calendrics.Date

/-! A date together with its calendar, and a day with its dates on both calendars. -/
namespace Calendrics

structure TaggedDate where
  calendar : Calendar
  date : Date calendar
  deriving DecidableEq

namespace TaggedDate

def ofTriple (c : Calendar) (t : Triple) : Except DateError TaggedDate :=
  (Date.ofTriple c t).map (⟨c, ·⟩)

def ofDayNumber (c : Calendar) (j : DayNumber) : TaggedDate := ⟨c, Date.ofDayNumber c j⟩

def read (c : Calendar) (cs : List Char) : Except ReadError TaggedDate :=
  (Date.read c cs).map (⟨c, ·⟩)

def triple (d : TaggedDate) : Triple := d.date.triple

def dayNumber (d : TaggedDate) : DayNumber := d.date.dayNumber

/-- The written form, which does not show the calendar. -/
def text (d : TaggedDate) : String := d.date.text

/-- The same day as a date of a calendar: the date itself if that is its calendar. -/
def onCalendar (d : TaggedDate) (c : Calendar) : Date c :=
  if h : d.calendar = c then h ▸ d.date else Date.ofDayNumber c d.dayNumber

def toCalendar (d : TaggedDate) (c : Calendar) : TaggedDate := ⟨c, d.onCalendar c⟩

def compare? (a b : TaggedDate) : Option Ordering :=
  if a.calendar = b.calendar then some (a.triple.compare b.triple) else none

end TaggedDate

structure DayRecord where
  day : DayNumber
  gregorian : Date .gregorian
  hijri : Date .hijri
  deriving DecidableEq

namespace DayRecord

def ofDayNumber (j : DayNumber) : DayRecord :=
  ⟨j, Date.ofDayNumber .gregorian j, Date.ofDayNumber .hijri j⟩

def ofDate (d : TaggedDate) : DayRecord := ofDayNumber d.dayNumber

/-- Whether both dates are dates of the day. -/
def IsCoherent (r : DayRecord) : Prop := r.gregorian.dayNumber = r.day ∧ r.hijri.dayNumber = r.day

instance (r : DayRecord) : Decidable r.IsCoherent :=
  inferInstanceAs (Decidable (r.gregorian.dayNumber = r.day ∧ r.hijri.dayNumber = r.day))

theorem isCoherent_ofDayNumber (j : DayNumber) : (ofDayNumber j).IsCoherent :=
  ⟨Date.dayNumber_ofDayNumber j, Date.dayNumber_ofDayNumber j⟩

end DayRecord

end Calendrics
