import Mathlib.Data.List.Forall2
import Calendrics.Event
import Calendrics.Proofs.Numeral

/-! What messages say, written out word by word, apart from the functions that compose them. A
quoted text is given by what stands for each of its characters, a refusal by its sentence, and an
event by the line of the log that shows it. Main statements: `Text.quotes_iff`,
`ReadError.message_eq`, `Event.wording_iff`. -/
namespace Calendrics

theorem forall₂_iff_eq_map {α β : Type} {R : α → β → Prop} {f : α → β}
    (h : ∀ a b, R a b ↔ b = f a) {as : List α} {bs : List β} :
    List.Forall₂ R as bs ↔ bs = as.map f := by
  have same : R = fun a b => f a = b := funext₂ fun a b => propext ((h a b).trans eq_comm)
  rw [same, ← List.forall₂_map_left_iff, List.forall₂_eq_eq_eq, eq_comm]

namespace Text

def shortEscapes : List (Char × String) :=
  [('"', "\\\""), ('\\', "\\\\"), ('\t', "\\t"), ('\n', "\\n"), ('\r', "\\r"), ('\x00', "\\0")]

/-- What stands for a character between quotes: its short escape, if it has one, else the character,
or the escape of its code point if it is not shown. Of ASCII all is shown but the controls. -/
inductive Stands : Char → String → Prop
  | short {c : Char} {escape : String} (listed : (c, escape) ∈ shortEscapes) : Stands c escape
  | ascii {c : Char} (low : 0x20 ≤ c.toNat) (high : c.toNat ≤ 0x7e)
      (other : c ∉ shortEscapes.map Prod.fst) : Stands c (String.ofList [c])
  | shown {c : Char} (beyond : 0x7e < c.toNat) (visible : isVisible c) :
      Stands c (String.ofList [c])
  | codePoint {c : Char} (hidden : c.toNat < 0x20 ∨ 0x7e < c.toNat ∧ ¬ isVisible c)
      (other : c ∉ shortEscapes.map Prod.fst) :
      Stands c ("\\u\x7b" ++ String.ofList (Nat.toDigits 16 c.toNat) ++ "\x7d")

/-- A text between double quotes. -/
def Quotes (s quoted : String) : Prop :=
  ∃ parts : List String, List.Forall₂ Stands s.toList parts ∧
    quoted = "\"" ++ String.join parts ++ "\""

theorem low_of_isVisible {c : Char} (h : isVisible c) : 0x20 ≤ c.toNat := by
  by_contra low
  have hidden : ∃ r ∈ hiddenRanges, (r.1 ≤ c.toNat && c.toNat ≤ r.2) :=
    ⟨(0x0, 0x1f), List.mem_cons_self, by simp; omega⟩
  simp only [isVisible, List.any_eq_true.mpr hidden] at h
  simp [low] at h

theorem not_isVisible_iff {c : Char} :
    ¬ isVisible c ↔ c.toNat < 0x20 ∨ 0x7e < c.toNat ∧ ¬ isVisible c := by
  constructor
  · intro hidden
    by_cases low : 0x20 ≤ c.toNat
    · by_cases high : c.toNat ≤ 0x7e
      · exact absurd (isVisible_of_ascii low high) hidden
      · exact .inr ⟨Nat.lt_of_not_le high, hidden⟩
    · exact .inl (Nat.lt_of_not_le low)
  · rintro (low | ⟨-, hidden⟩)
    · exact fun visible => Nat.not_lt_of_le (low_of_isVisible visible) low
    · exact hidden

theorem quotedChar_of_listed {c : Char} {escape : String} (h : (c, escape) ∈ shortEscapes) :
    String.ofList (quotedChar c) = escape := by
  have all : ∀ p ∈ shortEscapes, String.ofList (quotedChar p.1) = p.2 := by decide
  exact all _ h

theorem quotedChar_of_not_listed {c : Char} (h : c ∉ shortEscapes.map Prod.fst) :
    quotedChar c = if isVisible c then [c] else codePointEscape c := by
  simp only [shortEscapes, List.map_cons, List.map_nil, List.mem_cons, List.not_mem_nil, or_false,
    not_or] at h
  obtain ⟨quote, backslash, tab, lineFeed, carriageReturn, null⟩ := h
  rw [quotedChar, if_neg quote, if_neg backslash, if_neg tab, if_neg lineFeed, if_neg carriageReturn,
    if_neg null]

theorem ofList_codePointEscape (c : Char) : String.ofList (codePointEscape c) =
    "\\u\x7b" ++ String.ofList (Nat.toDigits 16 c.toNat) ++ "\x7d" := by
  apply String.toList_injective
  simp [codePointEscape]

theorem stands_iff (c : Char) (text : String) :
    Stands c text ↔ text = String.ofList (quotedChar c) := by
  constructor
  · intro h
    cases h with
    | short listed => exact (quotedChar_of_listed listed).symm
    | ascii low high other =>
      rw [quotedChar_of_not_listed other, if_pos (isVisible_of_ascii low high)]
    | shown beyond visible =>
      have other : c ∉ shortEscapes.map Prod.fst := by
        have all : ∀ p ∈ shortEscapes, p.1.toNat ≤ 0x7e := by decide
        intro listed
        obtain ⟨p, member, rfl⟩ := List.mem_map.mp listed
        exact Nat.not_lt_of_le (all p member) beyond
      rw [quotedChar_of_not_listed other, if_pos visible]
    | codePoint hidden other =>
      rw [quotedChar_of_not_listed other, if_neg (not_isVisible_iff.mpr hidden), ofList_codePointEscape]
  · rintro rfl
    by_cases other : c ∉ shortEscapes.map Prod.fst
    · rw [quotedChar_of_not_listed other]
      split_ifs with visible
      · by_cases high : c.toNat ≤ 0x7e
        · exact .ascii (low_of_isVisible visible) high other
        · exact .shown (Nat.lt_of_not_le high) visible
      · rw [ofList_codePointEscape]
        exact .codePoint (not_isVisible_iff.mp visible) other
    · obtain ⟨⟨d, escape⟩, listed, rfl⟩ := List.mem_map.mp (not_not.mp other)
      rw [quotedChar_of_listed listed]
      exact .short listed

theorem quotes_iff {s quoted : String} : Quotes s quoted ↔ quoted = Event.quotedText s := by
  have joined : Event.quotedText s =
      "\"" ++ String.join (s.toList.map fun c => String.ofList (quotedChar c)) ++ "\"" := by
    apply String.toList_injective
    simp [Event.quotedText, Text.quoted, List.flatMap_map]
  rw [Quotes, joined]
  simp only [forall₂_iff_eq_map stands_iff, exists_eq_left]

end Text

theorem toString_string (s : String) : toString s = s := rfl

namespace Decimal

theorem text_natCast (n : Nat) : text n = toString n := rfl

theorem text_eq (n : Int) : text n = toString n := by
  cases n with
  | ofNat n => rfl
  | negSucc n =>
    apply String.toList_injective
    simp [text, ofInt, digits, toString, Int.repr, Nat.repr, Int.negSucc_lt_zero]

def twoDigits (n : Nat) : String := if n < 10 then s!"0{n}" else s!"{n}"

theorem ofList_padded (n : Nat) : String.ofList (padded 2 n) = twoDigits n := by
  have positive : 0 < (digits n).length := List.length_pos_iff.mpr (digits_ne_nil n)
  have single : (digits n).length ≤ 1 ↔ n < 10 := length_digits_le_iff (by decide)
  apply String.toList_injective
  rw [padded, List.leftpad, twoDigits]
  split_ifs with small
  · have one_short : 2 - (digits n).length = 1 := by omega
    rw [one_short]
    simp [digits, toString_string]
  · have filled : 2 - (digits n).length = 0 := by omega
    rw [filled]
    simp [digits]

end Decimal

def Calendar.word : Calendar → String
  | gregorian => "gregorian"
  | hijri => "hijri"

def Direction.wording : Direction → String
  | gregorianToHijri => "Gregorian to Hijri"
  | hijriToGregorian => "Hijri to Gregorian"

def Reason.wording : Reason → String
  | monthOutOfRange => "month must be 1-12"
  | dayOutOfRange greatest => s!"day must be 1-{greatest}"
  | outOfSupportedRange => "outside the supported Julian day range"

def DateError.wording (e : DateError) : String :=
  let date := s!"{e.triple.year}-{Decimal.twoDigits e.triple.month}-{Decimal.twoDigits e.triple.day}"
  match e.calendar with
  | .gregorian => s!"Invalid Gregorian date {date}: {e.reason.wording}"
  | .hijri => s!"Invalid Hijri date {date}: {e.reason.wording}"

def ReadError.wording : ReadError → String
  | empty => "Empty date string"
  | badFormat text => s!"Invalid date format: {text} (expected YYYY-MM-DD)"
  | unknownCalendar text => s!"Unknown calendar: {text} (expected gregorian or hijri)"
  | invalidDate error => error.wording

theorem Direction.name_eq (d : Direction) : d.name = d.wording := by
  cases d <;> rfl

theorem Reason.message_eq (r : Reason) : r.message = r.wording := by
  cases r with
  | monthOutOfRange => rfl
  | dayOutOfRange greatest =>
    have composed : (dayOutOfRange greatest).message = "day must be 1-" ++ Decimal.text greatest := rfl
    rw [composed, wording, Decimal.text_natCast, toString_string]
  | outOfSupportedRange => rfl

theorem DateError.message_eq (e : DateError) : e.message = e.wording := by
  obtain ⟨calendar, ⟨year, month, day⟩, reason⟩ := e
  have composed : message ⟨calendar, ⟨year, month, day⟩, reason⟩ =
      "Invalid " ++ calendar.name ++ " date " ++ Decimal.text year ++ "-" ++
        String.ofList (Decimal.padded 2 month) ++ "-" ++ String.ofList (Decimal.padded 2 day) ++
        ": " ++ reason.message := rfl
  rw [composed, wording, reason.message_eq, Decimal.text_eq, Decimal.ofList_padded,
    Decimal.ofList_padded]
  cases calendar with
  | gregorian | hijri => simp [Calendar.name, toString_string, String.append_assoc]

theorem ReadError.message_eq (e : ReadError) : e.message = e.wording := by
  cases e with
  | empty => rfl
  | badFormat text => rfl
  | unknownCalendar text => rfl
  | invalidDate error => exact error.message_eq

/-- The line of a log for an event. -/
inductive Event.Wording : Event → String → Prop
  | crossedToHijri {date : Date .gregorian} {day : DayNumber} {result : Date .hijri} :
      Wording (.crossed .gregorianToHijri date day result)
        (s!"TRACE hijri_date::convert: gregorian -> hijri date={date.text} jdn={day.value} " ++
          s!"hijri={result.text}")
  | crossedToGregorian {date : Date .hijri} {day : DayNumber} {result : Date .gregorian} :
      Wording (.crossed .hijriToGregorian date day result)
        (s!"TRACE hijri_date::convert: hijri -> gregorian date={date.text} jdn={day.value} " ++
          s!"gregorian={result.text}")
  | refusedTriple {direction : Direction} {error : DateError} :
      Wording (.refusedTriple direction error)
        (s!"DEBUG hijri_date::convert: rejected input direction={direction.wording} " ++
          s!"err={error.wording}")
  | refusedText {direction : Direction} {input quoted : String} {error : ReadError}
      (quotes : Text.Quotes input quoted) :
      Wording (.refusedText direction input error)
        (s!"DEBUG hijri_date::convert: rejected input direction={direction.wording} " ++
          s!"input={quoted} err={error.wording}")
  | converted {direction : Direction} {source result : TaggedDate} :
      Wording (.converted direction source result)
        (s!"DEBUG hijri_date::convert: converted direction={direction.wording} " ++
          s!"source={source.text} converted={result.text}")
  | answered {direction : Direction} {input quoted : String} {result : TaggedDate}
      (quotes : Text.Quotes input quoted) :
      Wording (.answered direction input result)
        (s!"INFO hijri: converted direction={direction.wording} input={quoted} " ++
          s!"converted={result.text}")
  | shown {day : DayNumber} : Wording (.shown day) s!"INFO hijri: show jdn={day.value}"

namespace Event

theorem line_eq_of_wording {e : Event} {text : String} (h : e.Wording text) : e.line = text := by
  apply String.toList_injective
  cases h with
  | crossedToHijri | crossedToGregorian =>
    simp [line, level, Level.name, target, message, fields, Decimal.text_eq, toString_string,
      Direction.source, Direction.target, Calendar.key]
  | refusedTriple | converted | shown =>
    simp [line, level, Level.name, target, message, fields, Decimal.text_eq, toString_string,
      Direction.name_eq, DateError.message_eq]
  | refusedText quotes | answered quotes =>
    cases Text.quotes_iff.mp quotes
    simp [line, level, Level.name, target, message, fields, toString_string, Direction.name_eq,
      ReadError.message_eq]

theorem exists_wording (e : Event) : ∃ text, e.Wording text := by
  cases e with
  | crossed direction =>
    cases direction with
    | gregorianToHijri => exact ⟨_, .crossedToHijri⟩
    | hijriToGregorian => exact ⟨_, .crossedToGregorian⟩
  | refusedTriple => exact ⟨_, .refusedTriple⟩
  | refusedText => exact ⟨_, .refusedText (Text.quotes_iff.mpr rfl)⟩
  | converted => exact ⟨_, .converted⟩
  | answered => exact ⟨_, .answered (Text.quotes_iff.mpr rfl)⟩
  | shown => exact ⟨_, .shown⟩

theorem wording_iff (e : Event) (text : String) : e.Wording text ↔ text = e.line := by
  constructor
  · exact fun wording => (line_eq_of_wording wording).symm
  · rintro rfl
    obtain ⟨text, wording⟩ := e.exists_wording
    rwa [line_eq_of_wording wording]

end Event

end Calendrics
