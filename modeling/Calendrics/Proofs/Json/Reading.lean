import Calendrics.Proofs.Json.Building
import Calendrics.Proofs.Json.Writing
import Calendrics.Proofs.SameDay

/-! A tagged date is read in its own calendar, however its JSON is arranged: calendar first, date
first, or as an array. In an object only the members of the two keys count, whatever stands around
them. Main statement: `tagged_date_read_in_its_calendar`. -/
namespace Calendrics.Json

variable {c : Calendar} {t : List Char}

def IsString (cs : List Char) (v : Value) : Prop := ∃ us, v = .string us ∧ characters us = some cs

theorem isString_plain (s : String) : IsString s.toList (plainString s) :=
  ⟨plainUnits s, rfl, characters_plain s.toList⟩

theorem characters_code {n : Nat} (below : n < 0xd800) (us : Units) :
    characters (.code n :: us) = (characters us).map (Char.ofNat n :: ·) := by
  have no_high : ¬ (0xd800 ≤ n ∧ n ≤ 0xdbff) := by omega
  have no_low : ¬ (0xdc00 ≤ n ∧ n ≤ 0xdfff) := by omega
  have no_half : ¬ (0xd800 ≤ n ∧ n ≤ 0xdfff) := by omega
  rw [characters.eq_def]
  cases us with
  | nil => simp only [if_neg no_half]
  | cons u us =>
    cases u with
    | char c => simp only [if_neg no_half]
    | code m => simp only [if_neg no_high, if_neg no_low]

/- The characters that cannot stand as they are: quotes and backslashes have short escapes, and
those below the space have codes. -/
theorem exists_unitText (c : Char) :
    ∃ u word, UnitText u word ∧ ∀ us, characters (u :: us) = (characters us).map (c :: ·) := by
  by_cases plain : isPlain c
  · exact ⟨.char c, _, .plain plain, fun _ => rfl⟩
  · by_cases short : shortEscape c = some c
    · exact ⟨.char c, _, .escape short, fun _ => rfl⟩
    · have hex : ∀ n < 0x20,
          hexCode '0' '0' (Nat.digitChar (n / 16)) (Nat.digitChar (n % 16)) = some n := by decide
      have no_quote : c ≠ '"' := by
        rintro rfl
        exact short rfl
      have no_backslash : c ≠ '\\' := by
        rintro rfl
        exact short rfl
      have control : c.toNat < 0x20 :=
        Nat.lt_of_not_le fun high => plain (isPlain_iff.mpr ⟨no_quote, no_backslash, high⟩)
      have code := characters_code (Nat.lt_trans control (by decide))
      rw [Char.ofNat_toNat] at code
      exact ⟨.code c.toNat, _, .code (hex _ control), code⟩

theorem exists_isText (cs : List Char) : ∃ v text, IsString cs v ∧ IsText v text := by
  have units : ∃ us word, UnitsText us word ∧ characters us = some cs := by
    induction cs with
    | nil => exact ⟨[], [], .nil, rfl⟩
    | cons c cs ih =>
      obtain ⟨us, word, rest, same⟩ := ih
      obtain ⟨u, cs', unit, text⟩ := exists_unitText c
      exact ⟨u :: us, _, .cons unit rest, by rw [text, same]; rfl⟩
  obtain ⟨us, word, text, same⟩ := units
  exact ⟨.string us, String.ofList _, ⟨us, rfl, same⟩,
    isText_of_atom (by rw [String.toList_ofList]; exact .string (.quoted text))⟩

theorem readString_of_isString {v : Value} (h : IsString t v) : readString v = .ok t := by
  obtain ⟨us, rfl, text⟩ := h
  rw [readString, text]
  rfl

theorem readDate_of_isString {v : Value} (h : IsString t v) :
    readDate c v = (Date.read c t).mapError .refused := by
  rw [readDate, readString_of_isString h]
  rfl

theorem readKey_of_isString {α : Type} {ofKey? : String → Option α} {key : String} {a : α} {v : Value}
    (h : IsString key.toList v) (known : ofKey? key = some a) : readKey ofKey? v = .ok a := by
  obtain ⟨us, rfl, text⟩ := h
  simp [readKey, require, text, known, bind, Except.bind]

theorem readConstant_of_isString {α : Type} {ofKey? : String → Option α} {key : String} {a : α}
    {v : Value} (h : IsString key.toList v) (known : ofKey? key = some a) :
    readConstant ofKey? v = .ok a := by
  obtain ⟨us, rfl, text⟩ := h
  exact readKey_of_isString ⟨us, rfl, text⟩ known

theorem readTagged_of_isString {v : Value} {rest : Prop} [Decidable rest] (h : IsString t v)
    (fine : rest) : readTagged (.ok c) v rest = (TaggedDate.read c t).mapError .refused := by
  rw [TaggedDate.read]
  cases answer : Date.read c t with
  | error e =>
    simp [readTagged, readDate_of_isString h, answer, bind, Except.bind, Except.map, Except.mapError]
  | ok d =>
    simp [readTagged, readDate_of_isString h, answer, ensure, fine, bind, Except.bind, pure, Except.pure,
      Except.map, Except.mapError]

def IsField (key : String) (cs : List Char) (m : Units × Value) : Prop :=
  characters m.1 = some key.toList ∧ IsString cs m.2

theorem isField_plain (key s : String) : IsField key s.toList (plainUnits key, plainString s) :=
  ⟨characters_plain key.toList, isString_plain s⟩

/-- Members whose keys are neither of the two that count. -/
def Unknown (ms : List (Units × Value)) : Prop :=
  ∀ m ∈ ms, ∃ key, characters m.1 = some key ∧
    String.ofList key ≠ calendarKey ∧ String.ofList key ≠ dateKey

/-- The members of an object that gives a calendar and a text, in either order, among others that do
not count. -/
inductive Describes (c : Calendar) (t : List Char) : List (Units × Value) → Prop where
  | calendarFirst {before between after : List (Units × Value)} {tag date : Units × Value}
      (unknown_before : Unknown before) (tag_field : IsField calendarKey c.key.toList tag)
      (unknown_between : Unknown between) (date_field : IsField dateKey t date)
      (unknown_after : Unknown after) :
      Describes c t (before ++ tag :: (between ++ date :: after))
  | dateFirst {before between after : List (Units × Value)} {tag date : Units × Value}
      (unknown_before : Unknown before) (date_field : IsField dateKey t date)
      (unknown_between : Unknown between) (tag_field : IsField calendarKey c.key.toList tag)
      (unknown_after : Unknown after) :
      Describes c t (before ++ date :: (between ++ tag :: after))

def counted (ms : List (Units × Value)) : List (String × Value) :=
  (named ms).1.filter fun m => m.1 = calendarKey ∨ m.1 = dateKey

section

variable {ms : List (Units × Value)}

theorem named_of_text {us : Units} {v : Value} {key : List Char} (text : characters us = some key) :
    named ((us, v) :: ms) = ((String.ofList key, v) :: (named ms).1, (named ms).2) := by
  rw [named, text]

theorem counted_unknown (unknown : Unknown ms) (rest : List (Units × Value)) :
    counted (ms ++ rest) = counted rest ∧ (named (ms ++ rest)).2 = (named rest).2 := by
  induction ms with
  | nil => exact ⟨rfl, rfl⟩
  | cons m ms ih =>
    obtain ⟨key, text, not_calendar, not_date⟩ := unknown m List.mem_cons_self
    have others := ih fun m hm => unknown m (List.mem_cons_of_mem _ hm)
    rw [← others.1, ← others.2]
    simp [counted, named_of_text text, not_calendar, not_date]

theorem counted_field {key : String} {cs : List Char} {m : Units × Value} (field : IsField key cs m)
    (counts : key = calendarKey ∨ key = dateKey) (rest : List (Units × Value)) :
    counted (m :: rest) = (key, m.2) :: counted rest ∧ (named (m :: rest)).2 = (named rest).2 := by
  simp [counted, named_of_text field.1, counts]

/- Of an object with two members that count, only these are left. -/
theorem counted_two {key other : String} {cs ds : List Char} {m m' : Units × Value}
    {before between after : List (Units × Value)} (unknown_before : Unknown before)
    (field : IsField key cs m) (unknown_between : Unknown between) (field' : IsField other ds m')
    (unknown_after : Unknown after) (counts : key = calendarKey ∨ key = dateKey)
    (counts' : other = calendarKey ∨ other = dateKey) :
    counted (before ++ m :: (between ++ m' :: after)) = [(key, m.2), (other, m'.2)] ∧
      (named (before ++ m :: (between ++ m' :: after))).2 = true := by
  have last := counted_unknown unknown_after []
  rw [List.append_nil] at last
  have second := counted_field field' counts' after
  have middle := counted_unknown unknown_between (m' :: after)
  have first := counted_field field counts (between ++ m' :: after)
  have whole := counted_unknown unknown_before (m :: (between ++ m' :: after))
  constructor
  · rw [whole.1, first.1, middle.1, second.1, last.1]
    rfl
  · rw [whole.2, first.2, middle.2, second.2, last.2]
    rfl

theorem readTaggedDate_object (ms : List (Units × Value)) : readTaggedDate (.object ms true) =
    match counted ms with
    | (k, v) :: (l, w) :: rest =>
      if k = calendarKey ∧ l = dateKey then
        readTagged (readCalendar v) w (rest = [] ∧ (named ms).2 ∧ true)
      else if k = dateKey ∧ l = calendarKey then
        readTagged (readCalendar w) v (rest = [] ∧ (named ms).2 ∧ true)
      else .error .malformed
    | _ => .error .malformed := rfl

theorem readTaggedDate_of_describes (h : Describes c t ms) :
    readTaggedDate (.object ms true) = (TaggedDate.read c t).mapError .refused := by
  rw [readTaggedDate_object]
  cases h with
  | calendarFirst unknown_before tag unknown_between date unknown_after =>
    have two := counted_two unknown_before tag unknown_between date unknown_after (.inl rfl) (.inr rfl)
    have calendar : readCalendar _ = _ := readConstant_of_isString tag.2 c.ofKey?_key
    simp only [two.1, two.2, calendar]
    exact readTagged_of_isString date.2 ⟨trivial, trivial, trivial⟩
  | dateFirst unknown_before date unknown_between tag unknown_after =>
    have two := counted_two unknown_before date unknown_between tag unknown_after (.inr rfl) (.inl rfl)
    have calendar : readCalendar _ = _ := readConstant_of_isString tag.2 c.ofKey?_key
    simp only [two.1, two.2, calendar]
    exact readTagged_of_isString date.2 ⟨trivial, trivial, trivial⟩

end

theorem readTaggedDate_array {tag date : Value} (tag_text : IsString c.key.toList tag)
    (date_text : IsString t date) :
    readTaggedDate (.array [tag, date] true) = (TaggedDate.read c t).mapError .refused := by
  have calendar : readKey Calendar.ofKey? tag = .ok c := readKey_of_isString tag_text c.ofKey?_key
  rw [readTaggedDate, calendar]
  exact readTagged_of_isString date_text ⟨rfl, rfl⟩

/-- An object that gives a calendar and a text, in either order and among other members, and an
array of the two, are read as a tagged date exactly as the text is read in that calendar: as the
same date, or refused for the same reason. So is the text alone, read as a date of the calendar.
Every text can be given so. -/
theorem tagged_date_read_in_its_calendar (c : Calendar) (t : List Char) :
    (∀ ms text, Describes c t ms → IsText (.object ms true) text →
      read readTaggedDate text = (TaggedDate.read c t).mapError .refused) ∧
    (∀ tag date text, IsString c.key.toList tag → IsString t date →
      IsText (.array [tag, date] true) text →
        read readTaggedDate text = (TaggedDate.read c t).mapError .refused) ∧
    (∀ date text, IsString t date → IsText date text →
      (read (readDate c) text).map (TaggedDate.mk c) = (TaggedDate.read c t).mapError .refused) ∧
    ∃ date text, IsString t date ∧ IsText date text := by
  refine ⟨?_, ?_, ?_, exists_isText t⟩
  · intro ms text describes spelled
    rw [read_of_isText spelled, readTaggedDate_of_describes describes]
  · intro tag date text tag_text date_text spelled
    rw [read_of_isText spelled, readTaggedDate_array tag_text date_text]
  · intro date text date_text spelled
    rw [read_of_isText spelled, readDate_of_isString date_text, TaggedDate.read]
    cases Date.read c t with
    | error e => rfl
    | ok d => rfl

/- A text that is a date in one calendar only: given before its calendar with another member between
them, after it in an array with a space, and alone. -/
theorem leap_day_is_read_in_one_calendar :
    let ms := [(plainUnits "date", plainString "2023-2-29"),
      (plainUnits "leap", .array [.number] true), (plainUnits "calendar", plainString "hijri")]
    let object := "\x7b\"date\":\"2023-2-29\",\"leap\":[-0],\"calendar\":\"hijri\"\x7d"
    let d : Date .hijri :=
      ⟨⟨2023, 2, 29⟩, ⟨⟨by decide, by decide, by decide, by decide⟩, by decide⟩⟩
    let refusal : Failure := .refused (.invalidDate ⟨.gregorian, ⟨2023, 2, 29⟩, .dayOutOfRange 28⟩)
    Describes .hijri "2023-2-29".toList ms ∧ IsText (.object ms true) object ∧
      read readTaggedDate object = .ok ⟨.hijri, d⟩ ∧
      read readTaggedDate "[\"gregorian\", \"2023-2-29\"]" = .error refusal ∧
      (read (readDate .gregorian) "\"2023-2-29\"").map (TaggedDate.mk .gregorian) =
        .error refusal := by
  intro ms object d refusal
  have unknown : Unknown [(plainUnits "leap", .array [.number] true)] := by
    rintro m (_ | ⟨_, ⟨⟩⟩)
    exact ⟨_, characters_plain _, by decide, by decide⟩
  have describes : Describes .hijri "2023-2-29".toList ms :=
    .dateFirst (List.forall_mem_nil _) (isField_plain dateKey _) unknown
      (isField_plain calendarKey _) (List.forall_mem_nil _)
  have date : StringText (plainUnits "2023-2-29") "\"2023-2-29\"".toList :=
    stringText_string (by decide)
  have gregorian : IsText (plainString "gregorian") "\"gregorian\"" := isText_string (by decide)
  have hijri : IsText (plainString "hijri") "\"hijri\"" := isText_string (by decide)
  have number : IsText (.array [.number] true) "[-0]" :=
    .element spaces_nil (.array (.lastItem (.element spaces_nil (.atom .minusZero) spaces_nil)))
      spaces_nil
  have object_text : IsText (.object ms true) object :=
    isText_object (.cons (isMember_member (by decide) (isText_of_atom (.string date)))
      (.cons (isMember_member (by decide) number)
        (.cons (isMember_member (by decide) hijri) .nil))) (List.cons_ne_nil _ _)
  have array_text : IsText (.array [plainString "gregorian", plainString "2023-2-29"] true)
      "[\"gregorian\", \"2023-2-29\"]" := by
    have spaced : Spells (.element (plainString "2023-2-29")) " \"2023-2-29\"".toList :=
      .element (by decide : Spaces [' ']) (.atom (.string date)) spaces_nil
    exact .element spaces_nil (.array (.item gregorian (.lastItem spaced))) spaces_nil
  have accepted : (TaggedDate.read .hijri "2023-2-29".toList).mapError Failure.refused =
      .ok ⟨.hijri, d⟩ := by decide
  have refused : (TaggedDate.read .gregorian "2023-2-29".toList).mapError Failure.refused =
      .error refusal := by decide
  obtain ⟨of_object, -⟩ := tagged_date_read_in_its_calendar .hijri "2023-2-29".toList
  obtain ⟨-, of_array, of_text, -⟩ := tagged_date_read_in_its_calendar .gregorian "2023-2-29".toList
  have array_read := of_array _ _ _ (isString_plain _) (isString_plain _) array_text
  have text_read := of_text _ _ (isString_plain _) (isText_of_atom (.string date))
  exact ⟨describes, object_text, (of_object ms object describes object_text).trans accepted,
    array_read.trans refused, text_read.trans refused⟩

end Calendrics.Json
