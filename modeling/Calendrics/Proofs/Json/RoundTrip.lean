import Calendrics.Proofs.Json.Reading

/-! What is written as JSON is read back, for every type that has a JSON form. So reading and
writing again normalizes: all the texts of one value are rewritten as the same text, which is
rewritten as itself. Main statement: `written_json_is_read_back`. -/
namespace Calendrics

namespace Json

inductive Kind where
  | date (c : Calendar)
  | month
  | day
  | calendar
  | direction
  | taggedDate
  | dayRecord

namespace Kind

def Carrier : Kind → Type
  | date c => Date c
  | month => Month
  | day => DayNumber
  | calendar => Calendar
  | direction => Direction
  | taggedDate => TaggedDate
  | dayRecord => DayRecord

def reader : (k : Kind) → Reader k.Carrier
  | date c => readDate c
  | month => readMonth
  | day => readDay
  | calendar => readCalendar
  | direction => readDirection
  | taggedDate => readTaggedDate
  | dayRecord => readDayRecord

def json : (k : Kind) → k.Carrier → String
  | date _ => Date.json
  | month => Month.json
  | day => DayNumber.json
  | calendar => Calendar.json
  | direction => Direction.json
  | taggedDate => TaggedDate.json
  | dayRecord => DayRecord.json

def value : (k : Kind) → k.Carrier → Value
  | date _, (d : Date _) => plainString d.text
  | month, (m : Month) => .integer m.value
  | day, (j : DayNumber) => .integer j.value
  | calendar, (tag : Calendar) => plainString tag.key
  | direction, (d : Direction) => plainString d.key
  | taggedDate, (d : TaggedDate) =>
    .object [(plainUnits calendarKey, plainString d.calendar.key),
      (plainUnits dateKey, plainString d.date.text)] true
  | dayRecord, (r : DayRecord) =>
    .object [(plainUnits dayKey, .integer r.day.value),
      (plainUnits Calendar.gregorian.key, plainString r.gregorian.text),
      (plainUnits Calendar.hijri.key, plainString r.hijri.text)] true

/-- What the constructor of the type makes of the parts of a value: the value itself. -/
def Constructed : (k : Kind) → k.Carrier → Prop
  | date c, (d : Date c) => Date.ofTriple c d.triple = .ok d
  | month, (m : Month) => Month.ofNat m.value = .ok m ∧ 1 ≤ m.value ∧ m.value ≤ 12
  | day, (j : DayNumber) => DayNumber.ofInt? j.value = some j
  | calendar, (tag : Calendar) => Calendar.ofKey? tag.key = some tag
  | direction, (d : Direction) => Direction.ofKey? d.key = some d
  | taggedDate, (d : TaggedDate) => TaggedDate.ofTriple d.calendar d.triple = .ok d
  | dayRecord, (r : DayRecord) =>
    DayNumber.ofInt? r.day.value = some r.day ∧
      Date.ofTriple .gregorian r.gregorian.triple = .ok r.gregorian ∧
      Date.ofTriple .hijri r.hijri.triple = .ok r.hijri

def rewrite (k : Kind) (text : String) : Except Failure String := (read k.reader text).map k.json

end Kind

section

variable {c : Calendar}

theorem unescaped_text (d : Date c) : Unescaped d.text := by
  intro x mem
  rw [Date.toList_text, ← Triple.spelling_text] at mem
  rcases Triple.Spelling.mem_text _ mem with rfl | digit
  · decide
  · exact isPlain_of_isDigit digit

theorem unescaped_calendar (c : Calendar) : Unescaped c.key := by
  cases c with
  | gregorian => decide
  | hijri => decide

theorem unescaped_direction (d : Direction) : Unescaped d.key := by
  cases d with
  | gregorianToHijri => decide
  | hijriToGregorian => decide

theorem isText_date (d : Date c) : IsText (plainString d.text) d.json :=
  isText_string (unescaped_text d)

theorem isText_value (k : Kind) (a : k.Carrier) : IsText (k.value a) (k.json a) := by
  cases k with
  | date c => exact isText_date a
  | month => exact isText_integer _
  | day => exact isText_integer _
  | calendar => exact isText_string (unescaped_calendar a)
  | direction => exact isText_string (unescaped_direction a)
  | taggedDate =>
    have calendar := isMember_member (by decide : Unescaped calendarKey)
      (isText_string (unescaped_calendar a.calendar))
    have date := isMember_member (by decide : Unescaped dateKey) (isText_date a.date)
    exact isText_object (.cons calendar (.cons date .nil)) (List.cons_ne_nil _ _)
  | dayRecord =>
    have day := isMember_member (by decide : Unescaped dayKey) (isText_integer a.day.value)
    have gregorian := isMember_member (unescaped_calendar .gregorian) (isText_date a.gregorian)
    have hijri := isMember_member (unescaped_calendar .hijri) (isText_date a.hijri)
    exact isText_object (.cons day (.cons gregorian (.cons hijri .nil))) (List.cons_ne_nil _ _)

theorem readDate_text (d : Date c) : readDate c (plainString d.text) = .ok d := by
  have found : Date.read c d.text.toList = .ok d := by
    rw [Date.read_eq_ok_iff, Date.toList_text]
    exact Triple.read_written d.readable
  rw [readDate_of_isString (isString_plain d.text), found]
  rfl

theorem readMonth_value (m : Month) : readMonth (.integer m.value) = .ok m := by
  have byte : (0 : Int) ≤ m.value ∧ (m.value : Int) ≤ greatestMonth := by
    have last := m.le_last
    simp only [monthsInYear] at last
    simp only [greatestMonth]
    omega
  simp only [readMonth, if_pos byte, Int.toNat_natCast, Month.ofNat_value]
  rfl

theorem readDay_value (j : DayNumber) : readDay (.integer j.value) = .ok j := by
  rw [readDay, DayNumber.ofInt?_value]
  rfl

theorem readCalendar_key (c : Calendar) : readCalendar (plainString c.key) = .ok c :=
  readConstant_of_isString (isString_plain c.key) c.ofKey?_key

theorem readDirection_key (d : Direction) : readDirection (plainString d.key) = .ok d :=
  readConstant_of_isString (isString_plain d.key) d.ofKey?_key

theorem readTaggedDate_value (d : TaggedDate) : readTaggedDate (Kind.taggedDate.value d) = .ok d := by
  have describes : Describes d.calendar d.date.text.toList
      [(plainUnits calendarKey, plainString d.calendar.key),
        (plainUnits dateKey, plainString d.date.text)] :=
    .calendarFirst (List.forall_mem_nil _) (isField_plain _ _) (List.forall_mem_nil _)
      (isField_plain _ _) (List.forall_mem_nil _)
  rw [Kind.value, readTaggedDate_of_describes describes]
  exact congrArg (Except.mapError Failure.refused) d.read_text

theorem named_plain (ms : List (String × Value)) :
    named (ms.map fun m => (plainUnits m.1, m.2)) = (ms, true) := by
  induction ms with
  | nil => rfl
  | cons m ms ih =>
    have text : characters (plainUnits m.1) = some m.1.toList := characters_plain _
    rw [List.map_cons, named_of_text text, ih, String.ofList_toList]

section

variable {draft : Draft} {v : Value}

theorem Draft.addAll_cons {key : String} {next : Draft} (h : draft.add key v = .ok next)
    (rest : List (String × Value)) : draft.addAll ((key, v) :: rest) = next.addAll rest := by
  rw [Draft.addAll, List.foldlM_cons, h]
  rfl

theorem Draft.add_day {j : DayNumber} (new : draft.day = none) (found : readDay v = .ok j) :
    draft.add dayKey v = .ok { draft with day := some j } := by
  simp [Draft.add, ensure, new, found, bind, Except.bind, pure, Except.pure]

theorem Draft.add_gregorian {d : Date .gregorian} (new : draft.gregorian = none)
    (found : readDate .gregorian v = .ok d) :
    draft.add Calendar.gregorian.key v = .ok { draft with gregorian := some d } := by
  have other : Calendar.gregorian.key ≠ dayKey := by decide
  simp [Draft.add, ensure, other, new, found, bind, Except.bind, pure, Except.pure]

theorem Draft.add_hijri {d : Date .hijri} (new : draft.hijri = none)
    (found : readDate .hijri v = .ok d) :
    draft.add Calendar.hijri.key v = .ok { draft with hijri := some d } := by
  have other : Calendar.hijri.key ≠ dayKey := by decide
  have other_calendar : Calendar.hijri.key ≠ Calendar.gregorian.key := by decide
  simp [Draft.add, ensure, other, other_calendar, new, found, bind, Except.bind, pure, Except.pure]

end

theorem readDayRecord_value (r : DayRecord) : readDayRecord (Kind.dayRecord.value r) = .ok r := by
  have members := named_plain [(dayKey, .integer r.day.value),
    (Calendar.gregorian.key, plainString r.gregorian.text),
    (Calendar.hijri.key, plainString r.hijri.text)]
  have draft : Draft.empty.addAll [(dayKey, .integer r.day.value),
      (Calendar.gregorian.key, plainString r.gregorian.text),
      (Calendar.hijri.key, plainString r.hijri.text)] =
        .ok ⟨some r.day, some r.gregorian, some r.hijri⟩ := by
    rw [Draft.addAll_cons (Draft.add_day rfl (readDay_value r.day)),
      Draft.addAll_cons (Draft.add_gregorian rfl (readDate_text r.gregorian)),
      Draft.addAll_cons (Draft.add_hijri rfl (readDate_text r.hijri))]
    rfl
  simp only [List.map_cons, List.map_nil] at members
  simp only [Kind.value, readDayRecord, members, draft]
  rfl

end

theorem reader_value (k : Kind) (a : k.Carrier) : k.reader (k.value a) = .ok a := by
  cases k with
  | date c => exact readDate_text a
  | month => exact readMonth_value a
  | day => exact readDay_value a
  | calendar => exact readCalendar_key a
  | direction => exact readDirection_key a
  | taggedDate => exact readTaggedDate_value a
  | dayRecord => exact readDayRecord_value a

theorem constructed (k : Kind) (a : k.Carrier) : k.Constructed a := by
  cases k with
  | date c => exact Date.ofTriple_triple a
  | month => exact ⟨Month.ofNat_value a, Month.one_le a, Month.le_last a⟩
  | day => exact DayNumber.ofInt?_value a
  | calendar => exact Calendar.ofKey?_key a
  | direction => exact Direction.ofKey?_key a
  | taggedDate => exact TaggedDate.ofTriple_triple a
  | dayRecord =>
    exact ⟨DayNumber.ofInt?_value a.day, Date.ofTriple_triple a.gregorian,
      Date.ofTriple_triple a.hijri⟩

theorem read_json (k : Kind) (a : k.Carrier) : read k.reader (k.json a) = .ok a := by
  rw [read_of_isText (isText_value k a), reader_value]

theorem rewrite_of_read {k : Kind} {text : String} {a : k.Carrier} (h : read k.reader text = .ok a) :
    k.rewrite text = .ok (k.json a) := by
  rw [Kind.rewrite, h]
  rfl

/-- What is written for a value of any type with a JSON form is a JSON text, and the value is read
back from it; a record need not be coherent for that. Whatever text a value was read from, its
constructor makes it, and the text written for it is read and rewritten as that text was, so it is
rewritten as itself. -/
theorem written_json_is_read_back :
    (∀ (k : Kind) (a : k.Carrier),
      IsText (k.value a) (k.json a) ∧ read k.reader (k.json a) = .ok a) ∧
    ∀ (k : Kind) (text : String) (a : k.Carrier), read k.reader text = .ok a →
      k.Constructed a ∧ read k.reader (k.json a) = .ok a ∧
        k.rewrite text = .ok (k.json a) ∧ k.rewrite (k.json a) = .ok (k.json a) := by
  refine ⟨fun k a => ⟨isText_value k a, read_json k a⟩, ?_⟩
  intro k text a found
  exact ⟨constructed k a, read_json k a, rewrite_of_read found, rewrite_of_read (read_json k a)⟩

/- A record that is not coherent, in another order than it is written in, with spaces and a member
that does not count. -/
theorem incoherent_record_is_read_back :
    let d : Date .gregorian :=
      ⟨⟨0, 1, 1⟩, ⟨⟨by decide, by decide, by decide, by decide⟩, by decide⟩⟩
    let d' : Date .hijri :=
      ⟨⟨1, 1, 1⟩, ⟨⟨by decide, by decide, by decide, by decide⟩, by decide⟩⟩
    let r : DayRecord := ⟨⟨7, by decide⟩, d, d'⟩
    let text := " \x7b\"hijri\":\"1-1-1\", \"x\":[null], \"jdn\": 7,\"gregorian\":\"-0-1-1\"\x7d"
    let written := "\x7b\"jdn\":7,\"gregorian\":\"0000-01-01\",\"hijri\":\"0001-01-01\"\x7d"
    ¬ r.IsCoherent ∧ read readDayRecord text = .ok r ∧ Kind.Constructed .dayRecord r ∧
      read readDayRecord written = .ok r ∧ Kind.rewrite .dayRecord text = .ok written ∧
      Kind.rewrite .dayRecord written = .ok written := by
  intro d d' r text written
  have incoherent : ¬ r.IsCoherent := by decide
  have found : read readDayRecord text = .ok r := by cbv
  have same : r.json = written := by decide
  have back := written_json_is_read_back.2 .dayRecord text r found
  rw [show Kind.json .dayRecord r = written from same] at back
  exact ⟨incoherent, found, back⟩

end Json

end Calendrics
