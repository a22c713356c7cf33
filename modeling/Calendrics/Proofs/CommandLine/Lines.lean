import Calendrics.CommandLine.Report
import Calendrics.Proofs.DatePrinting

/-! Lines of text. The lines of a text have no break in them, and printing them gives the text back.
What is written of dates, days and calendars is one line, and so is a quoted text whatever the text
is; so an event that holds no error is one line. Main statements: `printed_linesOf`,
`Event.unbroken_line`. -/
namespace Calendrics

def Unbroken (s : String) : Prop := '\n' ∉ s.toList

instance (s : String) : Decidable (Unbroken s) := inferInstanceAs (Decidable ('\n' ∉ s.toList))

@[simp]
theorem unbroken_append {s t : String} : Unbroken (s ++ t) ↔ Unbroken s ∧ Unbroken t := by
  simp [Unbroken]

theorem unbroken_join {parts : List String} (h : ∀ s ∈ parts, Unbroken s) :
    Unbroken (String.join parts) := by
  rw [Unbroken, String.toList_join, List.mem_flatMap]
  rintro ⟨s, member, broken⟩
  exact h s member broken

namespace Text

/- A character that is no break goes on with the line that follows it. -/
theorem splitOn_cons {c : Char} (h : c ≠ '\n') (cs : List Char) :
    ∃ line lines, cs.splitOn '\n' = line :: lines ∧ (c :: cs).splitOn '\n' = (c :: line) :: lines := by
  obtain ⟨line, lines, parts⟩ := List.exists_cons_of_ne_nil (List.splitOn_ne_nil '\n' cs)
  refine ⟨line, lines, parts, ?_⟩
  have no_break : (c == '\n') = false := beq_false_of_ne h
  rw [List.splitOn] at parts ⊢
  simp only [List.splitOnP_cons_eq_if_modifyHead, no_break, parts, Bool.false_eq_true, if_false,
    List.modifyHead_cons]

theorem splitOn_break (cs : List Char) : ('\n' :: cs).splitOn '\n' = [] :: cs.splitOn '\n' := by
  simp only [List.splitOn, List.splitOnP_cons_eq_if_modifyHead, beq_self_eq_true, if_true]

theorem flatMap_splitOn_break (cs : List Char) :
    (cs.splitOn '\n').flatMap (· ++ ['\n']) = cs ++ ['\n'] := by
  induction cs with
  | nil => rfl
  | cons c cs ih =>
    by_cases line_break : c = '\n'
    · rw [line_break, splitOn_break, List.flatMap_cons, ih]
      rfl
    · obtain ⟨line, lines, parts, longer⟩ := splitOn_cons line_break cs
      rw [parts, List.flatMap_cons] at ih
      rw [longer, List.flatMap_cons, List.cons_append, List.cons_append, ih, List.cons_append]

theorem break_notMem_of_mem_splitOn {cs line : List Char} (h : line ∈ cs.splitOn '\n') :
    '\n' ∉ line := by
  induction cs generalizing line with
  | nil =>
    cases List.mem_singleton.mp h
    exact List.not_mem_nil
  | cons c cs ih =>
    by_cases line_break : c = '\n'
    · rw [line_break, splitOn_break] at h
      rcases List.mem_cons.mp h with rfl | later
      · exact List.not_mem_nil
      · exact ih later
    · obtain ⟨first, others, parts, longer⟩ := splitOn_cons line_break cs
      rw [parts] at ih
      rw [longer] at h
      rcases List.mem_cons.mp h with rfl | later
      · exact List.not_mem_cons_of_ne_of_not_mem (Ne.symm line_break) (ih List.mem_cons_self)
      · exact ih (List.mem_cons_of_mem first later)

theorem break_notMem_toDigits (n : Nat) : '\n' ∉ Nat.toDigits 16 n := by
  induction n using Nat.strong_induction_on with
  | _ n ih =>
    rw [Nat.toDigits_eq_if (by decide)]
    split
    · simp
    · have smaller : n / 16 < n := by omega
      simp [ih _ smaller]

/- A line break has an escape of its own, so no other character is written as one. -/
theorem break_notMem_quotedChar (c : Char) : '\n' ∉ quotedChar c := by
  by_cases line_break : c = '\n'
  · subst line_break
    decide
  · have escape : '\n' ∉ codePointEscape c := by simp [codePointEscape, break_notMem_toDigits]
    rw [quotedChar]
    split_ifs <;> simp [escape, Ne.symm line_break]

theorem break_notMem_quoted (cs : List Char) : '\n' ∉ quoted cs := by
  simp [quoted, break_notMem_quotedChar]

end Text

theorem unbroken_quotedText (input : String) : Unbroken (Event.quotedText input) := by
  rw [Unbroken, Event.quotedText, String.toList_ofList]
  exact Text.break_notMem_quoted input.toList

theorem unbroken_decimal (n : Int) : Unbroken (Decimal.text n) := by
  have digits : '\n' ∉ Decimal.digits n.natAbs := by
    intro broken
    have digit := Decimal.isDigit_of_mem_digits broken
    revert digit
    decide
  rw [Unbroken, Decimal.text, String.toList_ofList, Decimal.ofInt]
  split <;> simp [digits]

theorem Date.unbroken_text {c : Calendar} (d : Date c) : Unbroken d.text := by
  rw [Unbroken, toList_text, ← Triple.spelling_text]
  intro broken
  rcases Triple.Spelling.mem_text _ broken with separator | digit
  · revert separator
    decide
  · revert digit
    decide

theorem TaggedDate.unbroken_text (d : TaggedDate) : Unbroken d.text := d.date.unbroken_text

namespace Json

theorem unbroken_string {s : String} (h : Unbroken s) : Unbroken (string s) := by
  simp only [string, unbroken_append, h, and_true]
  decide

theorem unbroken_member {key value : String} (hk : Unbroken key) (hv : Unbroken value) :
    Unbroken (member key value) := by
  simp only [member, unbroken_append, unbroken_string hk, hv, and_true, true_and]
  decide

theorem unbroken_intercalate {parts : List String} (h : ∀ s ∈ parts, Unbroken s) :
    Unbroken (",".intercalate parts) := by
  induction parts with
  | nil => decide
  | cons s parts ih =>
    obtain ⟨first, others⟩ := List.forall_mem_cons.mp h
    cases parts with
    | nil => rwa [String.intercalate_singleton]
    | cons t parts =>
      rw [String.intercalate_cons_cons]
      simp only [unbroken_append, first, ih others, and_true, true_and]
      decide

theorem unbroken_object {members : List String} (h : ∀ s ∈ members, Unbroken s) :
    Unbroken (object members) := by
  simp only [object, unbroken_append, unbroken_intercalate h, and_true]
  decide

end Json

theorem TaggedDate.unbroken_json (d : TaggedDate) : Unbroken d.json := by
  have calendar : Unbroken d.calendar.json := by cases d.calendar <;> decide
  have date : Unbroken d.date.json := Json.unbroken_string d.unbroken_text
  apply Json.unbroken_object
  simp only [List.forall_mem_cons]
  exact ⟨Json.unbroken_member (by decide) calendar, Json.unbroken_member (by decide) date,
    List.forall_mem_nil _⟩

theorem DayRecord.unbroken_json (r : DayRecord) : Unbroken r.json := by
  have day : Unbroken r.day.json := unbroken_decimal r.day.value
  have gregorian : Unbroken r.gregorian.json := Json.unbroken_string r.gregorian.unbroken_text
  have hijri : Unbroken r.hijri.json := Json.unbroken_string r.hijri.unbroken_text
  apply Json.unbroken_object
  simp only [List.forall_mem_cons]
  exact ⟨Json.unbroken_member (by decide) day, Json.unbroken_member (by decide) gregorian,
    Json.unbroken_member (by decide) hijri, List.forall_mem_nil _⟩

namespace Event

/-- An event that holds no error. -/
def Reports : Event → Prop
  | refusedTriple .. => False
  | refusedText .. => False
  | _ => True

theorem unbroken_heading (e : Event) :
    Unbroken (e.level.name ++ " " ++ e.target ++ ": " ++ e.message) := by
  have key (c : Calendar) : Unbroken c.key := by cases c <;> decide
  cases e with
  | crossed direction =>
    simp only [level, target, Event.message, unbroken_append, key, and_true]
    decide
  | refusedTriple => exact (by decide : Unbroken "DEBUG hijri_date::convert: rejected input")
  | refusedText => exact (by decide : Unbroken "DEBUG hijri_date::convert: rejected input")
  | converted => exact (by decide : Unbroken "DEBUG hijri_date::convert: converted")
  | answered => exact (by decide : Unbroken "INFO hijri: converted")
  | shown => exact (by decide : Unbroken "INFO hijri: show")

theorem unbroken_fields {e : Event} (h : e.Reports) :
    ∀ f ∈ e.fields, Unbroken f.1 ∧ Unbroken f.2 := by
  have name (direction : Direction) : Unbroken direction.name := by cases direction <;> decide
  have key (c : Calendar) : Unbroken c.key := by cases c <;> decide
  cases e with
  | crossed direction date day result =>
    simp only [fields, List.forall_mem_cons]
    exact ⟨⟨by decide, date.unbroken_text⟩, ⟨by decide, unbroken_decimal _⟩,
      ⟨key _, result.unbroken_text⟩, List.forall_mem_nil _⟩
  | refusedTriple => exact h.elim
  | refusedText => exact h.elim
  | converted direction source result =>
    simp only [fields, List.forall_mem_cons]
    exact ⟨⟨by decide, name direction⟩, ⟨by decide, source.unbroken_text⟩,
      ⟨by decide, result.unbroken_text⟩, List.forall_mem_nil _⟩
  | answered direction input result =>
    simp only [fields, List.forall_mem_cons]
    exact ⟨⟨by decide, name direction⟩, ⟨by decide, unbroken_quotedText input⟩,
      ⟨by decide, result.unbroken_text⟩, List.forall_mem_nil _⟩
  | shown day =>
    simp only [fields, List.forall_mem_cons]
    exact ⟨⟨by decide, unbroken_decimal _⟩, List.forall_mem_nil _⟩

theorem unbroken_line {e : Event} (h : e.Reports) : Unbroken e.line := by
  rw [line, unbroken_append]
  refine ⟨e.unbroken_heading, unbroken_join ?_⟩
  intro part member
  obtain ⟨f, of_event, rfl⟩ := List.mem_map.mp member
  obtain ⟨name, value⟩ := unbroken_fields h f of_event
  simp only [unbroken_append, name, value, and_true]
  decide

/-- An event opens with the name of its level, so its line is not taken for that of an error. -/
theorem line_not_error (e : Event) : ¬ "Error: ".toList <+: e.line.toList := by
  have opens : ∃ rest, e.line.toList = e.level.name.toList ++ ' ' :: rest :=
    ⟨(e.target ++ ": " ++ e.message ++
      String.join (e.fields.map fun f => " " ++ f.1 ++ "=" ++ f.2)).toList, by
      simp [line, String.append_assoc]⟩
  obtain ⟨rest, opens⟩ := opens
  rw [opens]
  cases e.level <;> simp [Level.name]

end Event

namespace CommandLine

/-- Lines, each with its break. -/
def printed (lines : List String) : String := String.join (lines.map (· ++ "\n"))

theorem linesOf_unbroken {s : String} (h : Unbroken s) : linesOf s = [s] := by
  have single : s.toList.splitOn '\n' = [s.toList] := by
    simpa using
      List.splitOn_intercalate '\n' (List.forall_mem_singleton.mpr h) (List.cons_ne_nil s.toList [])
  rw [linesOf, single, List.map_singleton, String.ofList_toList]

theorem printed_cons (line : String) (lines : List String) :
    printed (line :: lines) = line ++ "\n" ++ printed lines := by
  simp only [printed, List.map_cons, String.join_cons]

theorem printed_append (first rest : List String) :
    printed (first ++ rest) = printed first ++ printed rest := by
  induction first with
  | nil => simp [printed]
  | cons line lines ih => simp only [List.cons_append, printed_cons, ih, String.append_assoc]

/-- Printing the lines of a text gives the text back, with a break after it. -/
theorem printed_linesOf (text : String) : printed (linesOf text) = text ++ "\n" := by
  apply String.toList_injective
  have joined := Text.flatMap_splitOn_break text.toList
  simpa [printed, linesOf, List.flatMap_map] using joined

theorem unbroken_of_mem_linesOf {text line : String} (h : line ∈ linesOf text) : Unbroken line := by
  obtain ⟨part, member, rfl⟩ := List.mem_map.mp h
  rw [Unbroken, String.toList_ofList]
  exact Text.break_notMem_of_mem_splitOn member

theorem printed_flatMap_linesOf (texts : List String) :
    printed (texts.flatMap linesOf) = printed texts := by
  induction texts with
  | nil => rfl
  | cons text texts ih =>
    rw [List.flatMap_cons, printed_append, printed_linesOf, ih, printed_cons]

end CommandLine

end Calendrics
