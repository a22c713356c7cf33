import Calendrics.DateText
import Calendrics.Proofs.Numeral
import Mathlib.Data.List.TakeWhile

/-! What the reader of dates takes for a date. A text, less the blanks around it, is a date exactly
when it is spelled as one: perhaps a sign, then three numerals with separators between them. The
sign and the separator are the same character, but a numeral begins with a digit, so a separator in
front is a sign. Main statement: `read_follows_grammar`. -/
namespace Calendrics

namespace Text

def Blanks (cs : List Char) : Prop := ∀ c ∈ cs, isBlank c

instance (cs : List Char) : Decidable (Blanks cs) :=
  decidable_of_iff (cs.all isBlank) List.all_eq_true

/-- A text less the blanks around it: only blanks are left out, and none is left at an end. -/
structure Trims (cs t : List Char) : Prop where
  around : ∃ before after, cs = before ++ t ++ after ∧ Blanks before ∧ Blanks after
  first : ∀ c ∈ t.head?, isBlank c = false
  last : ∀ c ∈ t.getLast?, isBlank c = false

theorem dropWhile_of_first {cs : List Char} (h : ∀ c ∈ cs.head?, isBlank c = false) :
    cs.dropWhile isBlank = cs := by
  cases cs with
  | nil => rfl
  | cons c cs =>
    have first : isBlank c = false := h c rfl
    rw [List.dropWhile_cons, first]
    rfl

theorem first_dropWhile (cs : List Char) : ∀ c ∈ (cs.dropWhile isBlank).head?, isBlank c = false := by
  intro c first
  have stop := List.head?_dropWhile_not isBlank cs
  rw [Option.mem_def.mp first] at stop
  exact stop

theorem trim_of_trims {cs t : List Char} (h : Trims cs t) : trim cs = t := by
  obtain ⟨before, after, rfl, blank_before, blank_after⟩ := h.around
  have blank_back : Blanks after.reverse := fun c hc => blank_after c (List.mem_reverse.mp hc)
  have last : ∀ c ∈ t.reverse.head?, isBlank c = false := by
    rw [List.head?_reverse]
    exact h.last
  rw [trim, trimLeft, List.append_assoc, List.dropWhile_append_of_pos blank_before]
  cases t with
  | nil => rw [List.nil_append, List.dropWhile_eq_nil_iff.mpr blank_after]; rfl
  | cons c t =>
    have first : ∀ d ∈ ((c :: t) ++ after).head?, isBlank d = false := h.first
    rw [dropWhile_of_first first, trimRight, List.reverse_append,
      List.dropWhile_append_of_pos blank_back, dropWhile_of_first last, List.reverse_reverse]

theorem trims_trim (cs : List Char) : Trims cs (trim cs) := by
  have left : cs.takeWhile isBlank ++ trimLeft cs = cs := List.takeWhile_append_dropWhile
  have right : trim cs ++ ((trimLeft cs).reverse.takeWhile isBlank).reverse = trimLeft cs := by
    rw [trim, trimRight, ← List.reverse_append, List.takeWhile_append_dropWhile, List.reverse_reverse]
  constructor
  · refine ⟨cs.takeWhile isBlank, ((trimLeft cs).reverse.takeWhile isBlank).reverse, ?_, ?_, ?_⟩
    · rw [List.append_assoc, right, left]
    · exact fun c hc => List.mem_takeWhile_imp hc
    · exact fun c hc => List.mem_takeWhile_imp (List.mem_reverse.mp hc)
  · intro c first
    have kept : (trimLeft cs).head? = some c := by
      rw [← right, List.head?_append, Option.mem_def.mp first]
      rfl
    exact first_dropWhile cs c kept
  · intro c last
    rw [trim, trimRight, List.getLast?_reverse] at last
    exact first_dropWhile _ c last

end Text

namespace Triple

theorem ne_separator_of_isDigit {c : Char} (h : c.isDigit) : c ≠ separator := by
  rintro rfl
  revert h
  decide

theorem separator_notMem_digits (n : Decimal.Numeral) : separator ∉ n.digits :=
  fun h => ne_separator_of_isDigit (n.isDigit separator h) rfl

/-- A triple whose components the reader can hold. -/
structure Readable (t : Triple) : Prop where
  year_le : t.year.natAbs ≤ greatestYear
  month_le : t.month ≤ greatestPart
  day_le : t.day ≤ greatestPart

/-- A way to spell a triple: whether there is a sign, and the three numerals. -/
@[ext]
structure Spelling where
  negative : Bool
  year : Decimal.Numeral
  month : Decimal.Numeral
  day : Decimal.Numeral

namespace Spelling

variable (s : Spelling)

def body : List Char :=
  s.year.digits ++ separator :: (s.month.digits ++ separator :: s.day.digits)

def text : List Char := if s.negative then separator :: s.body else s.body

def triple : Triple :=
  ⟨if s.negative then -(s.year.value : Int) else s.year.value, s.month.value, s.day.value⟩

def fields : List (List Char) := [s.year.digits, s.month.digits, s.day.digits]

theorem body_eq : s.body = [separator].intercalate s.fields := by
  simp [body, fields, List.intercalate]

theorem separator_notMem_fields : ∀ run ∈ s.fields, separator ∉ run := by
  simp only [fields, List.forall_mem_cons]
  exact ⟨separator_notMem_digits _, separator_notMem_digits _, separator_notMem_digits _, by simp⟩

theorem splitOn_eq_fields_iff {cs : List Char} : cs.splitOn separator = s.fields ↔ cs = s.body := by
  rw [body_eq]
  constructor
  · intro split
    rw [← split, List.intercalate_splitOn]
  · rintro rfl
    exact List.splitOn_intercalate separator s.separator_notMem_fields (List.cons_ne_nil _ _)

/- A separator in front is the sign, because the year opens with a digit of its own. -/
theorem splitSign_eq_iff {cs : List Char} : splitSign cs = (s.negative, s.body) ↔ cs = s.text := by
  obtain ⟨digit, digits, opens⟩ := List.exists_cons_of_ne_nil s.year.isRun.1
  have unsigned : digit ≠ separator :=
    ne_separator_of_isDigit (s.year.isDigit digit (opens ▸ List.mem_cons_self))
  obtain ⟨rest, body⟩ : ∃ rest, s.body = digit :: rest := ⟨_, by rw [Spelling.body, opens]; rfl⟩
  rw [text, body]
  cases cs with
  | nil => cases s.negative <;> simp [splitSign]
  | cons c cs =>
    rw [splitSign]
    by_cases sign : c = separator
    · subst sign
      cases s.negative <;> simp [Ne.symm unsigned]
    · cases s.negative <;> simp [sign]

theorem natAbs_year : s.triple.year.natAbs = s.year.value := by
  rw [triple]
  split <;> simp

theorem mem_text {c : Char} (h : c ∈ s.text) : c = separator ∨ c.isDigit := by
  have of_body : c ∈ s.body → c = separator ∨ c.isDigit := by
    simp only [body, List.mem_append, List.mem_cons]
    rintro (year | mark | month | mark | day)
    · exact .inr (s.year.isDigit c year)
    · exact .inl mark
    · exact .inr (s.month.isDigit c month)
    · exact .inl mark
    · exact .inr (s.day.isDigit c day)
  rw [text] at h
  split at h
  · exact (List.mem_cons.mp h).elim .inl of_body
  · exact of_body h

theorem text_ne_nil : s.text ≠ [] := by
  cases negative : s.negative <;> simp [text, body, negative]

/-- A text has no two spellings. -/
theorem text_injective {s s' : Spelling} (h : s.text = s'.text) : s = s' := by
  have parts : (s.negative, s.body) = (s'.negative, s'.body) := by
    rw [← s.splitSign_eq_iff.mpr rfl, ← s'.splitSign_eq_iff.mpr rfl, h]
  obtain ⟨negative, body⟩ := Prod.mk.inj parts
  have fields : s.fields = s'.fields := by
    rw [← s.splitOn_eq_fields_iff.mpr rfl, ← s'.splitOn_eq_fields_iff.mpr rfl, body]
  simp only [Spelling.fields, List.cons.injEq, and_true] at fields
  obtain ⟨year, month, day⟩ := fields
  exact Spelling.ext negative (Decimal.Numeral.ext year) (Decimal.Numeral.ext month)
    (Decimal.Numeral.ext day)

end Spelling

theorem ofFields_eq_some_iff {negative : Bool} {fields : List (List Char)} {t : Triple} :
    ofFields negative fields = some t ↔
      t.Readable ∧ ∃ s : Spelling, s.negative = negative ∧ s.fields = fields ∧ s.triple = t := by
  constructor
  · intro found
    rw [ofFields.eq_def] at found
    split at found
    case h_1 year month day =>
      simp only [Option.bind_eq_bind, Option.bind_eq_some_iff, Decimal.read_eq_some_iff,
        Option.pure_def, Option.some.injEq] at found
      obtain ⟨_, ⟨y, rfl, year_le⟩, _, ⟨m, rfl, month_le⟩, _, ⟨d, rfl, day_le⟩, rfl⟩ := found
      let s : Spelling := ⟨negative, ⟨year, y⟩, ⟨month, m⟩, ⟨day, d⟩⟩
      have natAbs_le : s.triple.year.natAbs ≤ greatestYear := s.natAbs_year ▸ year_le
      exact ⟨⟨natAbs_le, month_le, day_le⟩, s, rfl, rfl, rfl⟩
    case h_2 => cases found
  · rintro ⟨fits, s, rfl, rfl, rfl⟩
    have year_le : s.year.value ≤ greatestYear := s.natAbs_year ▸ fits.year_le
    simp only [Spelling.fields, ofFields, Decimal.Numeral.read_digits year_le,
      Decimal.Numeral.read_digits fits.month_le, Decimal.Numeral.read_digits fits.day_le,
      Option.bind_eq_bind, Option.bind_some]
    rfl

/-- A text without blanks around it is read exactly when it spells a triple whose components fit. -/
theorem ofTrimmed_eq_some_iff {cs : List Char} {t : Triple} :
    ofTrimmed cs = some t ↔ t.Readable ∧ ∃ s : Spelling, s.text = cs ∧ s.triple = t := by
  rw [ofTrimmed, ofFields_eq_some_iff]
  apply and_congr_right
  intro _
  constructor
  · rintro ⟨s, negative, fields, triple⟩
    have body := s.splitOn_eq_fields_iff.mp fields.symm
    have text := s.splitSign_eq_iff.mp (Prod.ext negative.symm body)
    exact ⟨s, text.symm, triple⟩
  · rintro ⟨s, text, triple⟩
    rw [s.splitSign_eq_iff.mpr text.symm]
    exact ⟨s, rfl, (s.splitOn_eq_fields_iff.mpr rfl).symm, triple⟩

/-- What the grammar says of a text that has no blanks around it. -/
def Answers (trimmed : List Char) : Except ReadError Triple → Prop
  | .ok t => t.Readable ∧ ∃ s : Spelling, s.text = trimmed ∧ s.triple = t
  | .error .empty => trimmed = []
  | .error (.badFormat text) =>
    trimmed ≠ [] ∧ (¬ ∃ s : Spelling, s.text = trimmed ∧ s.triple.Readable) ∧
      text = String.ofList trimmed
  | .error _ => False

section

variable {cs trimmed : List Char}

theorem read_of_spelling {s : Spelling} (h : Text.Trims cs s.text) (fits : s.triple.Readable) :
    read cs = .ok s.triple := by
  have found := ofTrimmed_eq_some_iff.mpr ⟨fits, s, rfl, rfl⟩
  simp only [read, Text.trim_of_trims h, if_neg s.text_ne_nil, found]

theorem read_of_no_spelling (h : Text.Trims cs trimmed) (some_text : trimmed ≠ [])
    (none_spells : ¬ ∃ s : Spelling, s.text = trimmed ∧ s.triple.Readable) :
    read cs = .error (.badFormat (String.ofList trimmed)) := by
  have missing : ofTrimmed trimmed = none := by
    rw [Option.eq_none_iff_forall_ne_some]
    intro t found
    obtain ⟨fits, s, text, rfl⟩ := ofTrimmed_eq_some_iff.mp found
    exact none_spells ⟨s, text, fits⟩
  simp only [read, Text.trim_of_trims h, if_neg some_text, missing]

theorem read_of_empty (h : Text.Trims cs []) : read cs = .error .empty := by
  simp only [read, Text.trim_of_trims h, if_pos]

theorem answers_read (h : Text.Trims cs trimmed) : Answers trimmed (read cs) := by
  by_cases empty : trimmed = []
  · subst empty
    rw [read_of_empty h]
    rfl
  · by_cases spelled : ∃ s : Spelling, s.text = trimmed ∧ s.triple.Readable
    · obtain ⟨s, rfl, fits⟩ := spelled
      rw [read_of_spelling h fits]
      exact ⟨fits, s, rfl, rfl⟩
    · rw [read_of_no_spelling h empty spelled]
      exact ⟨empty, spelled, rfl⟩

end

/-- A text is read by what is left of it when the blanks around it are taken away: as a triple
exactly when that spells the triple and its components fit, as empty exactly when nothing is left,
and otherwise as of a bad format, in an error that holds what is left. -/
theorem read_follows_grammar (cs : List Char) :
    (∃ trimmed, Text.Trims cs trimmed) ∧
    ∀ trimmed, Text.Trims cs trimmed → ∀ answer, read cs = answer ↔ Answers trimmed answer := by
  constructor
  · exact ⟨Text.trim cs, Text.trims_trim cs⟩
  intro trimmed h answer
  constructor
  · rintro rfl
    exact answers_read h
  · intro outcome
    match answer, outcome with
    | .ok _, ⟨fits, s, text, triple⟩ =>
      subst text triple
      exact read_of_spelling h fits
    | .error .empty, empty =>
      cases empty
      exact read_of_empty h
    | .error (.badFormat _), ⟨some_text, none_spells, rfl⟩ =>
      exact read_of_no_spelling h some_text none_spells

/- A sign before zero, leading zeros, and blanks at both ends. -/
theorem signed_zero_follows_grammar :
    Text.Trims "\u3000-0-001-0255\n".toList "-0-001-0255".toList ∧
      read "\u3000-0-001-0255\n".toList = .ok ⟨0, 1, 255⟩ := by
  have trims : Text.Trims "\u3000-0-001-0255\n".toList "-0-001-0255".toList := by
    refine ⟨⟨['\u3000'], ['\n'], by decide, by decide, by decide⟩, ?_, ?_⟩
    · rintro c ⟨⟩
      decide
    · rintro c ⟨⟩
      decide
  let s : Spelling :=
    ⟨true, ⟨['0'], by decide⟩, ⟨['0', '0', '1'], by decide⟩,
      ⟨['0', '2', '5', '5'], by decide⟩⟩
  have fits : Readable ⟨0, 1, 255⟩ := ⟨by decide, by decide, by decide⟩
  exact ⟨trims, ((read_follows_grammar _).2 _ trims _).mpr ⟨fits, s, by decide, by decide⟩⟩

/- A separator too many is no sign. -/
example : read "2024--03-11".toList = .error (.badFormat "2024--03-11") := by decide

end Triple

end Calendrics
