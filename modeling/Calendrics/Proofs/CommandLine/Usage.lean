import Calendrics.CommandLine.Arguments
import Calendrics.Proofs.DateGrammar

/-! How a command may be called: flags before it, flags and perhaps a calendar after it, and then
the date, which may be any text after `--`, and any text that reads as a triple without it. Main
statements: `Usage.parse_arguments`, `Usage.parse_bare`. -/
namespace Calendrics.Triple

theorem Spelling.text_opens (s : Spelling) : ∃ (digit : Char) (rest : List Char), digit.isDigit ∧
    (s.text = digit :: rest ∨ s.text = separator :: digit :: rest) := by
  obtain ⟨digit, digits, opens⟩ := List.exists_cons_of_ne_nil s.year.isRun.1
  have is_digit : digit.isDigit := s.year.isDigit digit (opens ▸ List.mem_cons_self)
  refine ⟨digit, digits ++ separator :: (s.month.digits ++ separator :: s.day.digits), is_digit, ?_⟩
  cases negative : s.negative with
  | false => simp [text, body, negative, opens]
  | true => simp [text, body, negative, opens]

end Calendrics.Triple

namespace Calendrics.CommandLine

def Form.name : Form → String
  | convert .gregorianToHijri => "to-hijri"
  | convert .hijriToGregorian => "to-gregorian"
  | display => "show"

theorem Form.ofName?_name (form : Form) : ofName? form.name = some form := by
  match form with
  | .convert .gregorianToHijri => decide
  | .convert .hijriToGregorian => decide
  | .display => decide

theorem Argument.ofChars_name (form : Form) : ofChars form.name.toList = .word := by
  match form with
  | .convert .gregorianToHijri => decide
  | .convert .hijriToGregorian => decide
  | .display => decide

/-- Steps one after the other, and the arguments of all of them. -/
inductive Along {α : Type} (step : α → List String → α → Prop) :
    α → List String → α → Prop where
  | nil (a : α) : Along step a [] a
  | cons {a b c : α} {first rest : List String} (one : step a first b) (more : Along step b rest c) :
    Along step a (first ++ rest) c

def verboseCluster (more : Nat) : String := String.ofList ('-' :: 'v' :: List.replicate more 'v')

inductive Flags.Step : Flags → List String → Flags → Prop where
  | letters (f : Flags) (more : Nat) : Step f [verboseCluster more] ⟨f.verbosity + 1 + more, f.json⟩
  | verbose (f : Flags) : Step f ["--verbose"] f.louder
  | json (verbosity : Nat) : Step ⟨verbosity, false⟩ ["--json"] ⟨verbosity, true⟩

inductive Names (c : Calendar) : List String → Prop where
  | short (name : String) (known : Calendar.read name = .ok c) : Names c ["-c", name]
  | long (name : String) (known : Calendar.read name = .ok c) : Names c ["--calendar", name]
  | joined (name : String) (known : Calendar.read name = .ok c) : Names c ["--calendar=" ++ name]

/-- The arguments after a command other than its date. Only one command has a calendar. -/
inductive Reading.Step : Form → Reading → List String → Reading → Prop where
  | flags {form : Form} {f g : Flags} {arguments : List String} (date : Option String)
    (calendar : Option Calendar) (one : f.Step arguments g) :
    Step form ⟨f, date, calendar⟩ arguments ⟨g, date, calendar⟩
  | calendar {c : Calendar} {arguments : List String} (flags : Flags) (date : Option String)
    (names : Names c arguments) : Step .display ⟨flags, date, none⟩ arguments ⟨flags, date, some c⟩

namespace Argument

theorem ne_escape {argument : String} {kind : Argument} (h : ofChars argument.toList = kind)
    (other : kind ≠ .escape) : argument ≠ "--" := by
  rintro rfl
  exact other h.symm

theorem ofChars_verboseCluster (more : Nat) :
    ofChars (verboseCluster more).toList = .cluster ('v' :: List.replicate more 'v') := by
  rw [verboseCluster, String.toList_ofList]
  rfl

theorem ofChars_joined (name : String) :
    ofChars ("--calendar=" ++ name).toList = .long "calendar".toList (some name.toList) := by
  rw [String.toList_append]
  rfl

theorem ofChars_of_ne {c : Char} {cs : List Char} (h : c ≠ '-') : ofChars (c :: cs) = .word := by
  simp [ofChars, h]

theorem ofChars_of_hyphen {c : Char} {cs : List Char} (h : c ≠ '-') :
    ofChars ('-' :: c :: cs) = .cluster (c :: cs) := by
  simp [ofChars, h]

/-- A text that reads as a triple is a word, or a hyphen before a digit. -/
theorem ofChars_of_read {cs : List Char} {t : Triple} (h : Triple.read cs = .ok t) :
    ofChars cs = .word ∨ ∃ (digit : Char) (rest : List Char), digit.isDigit ∧
      ofChars cs = .cluster (digit :: rest) := by
  have spelled := Triple.answers_read (Text.trims_trim cs)
  rw [h] at spelled
  obtain ⟨-, s, text, -⟩ := spelled
  obtain ⟨before, after, around, blank_before, -⟩ := (Text.trims_trim cs).around
  rw [around, ← text]
  -- A blank is no hyphen; without blanks in front the text opens as its spelling does.
  cases before with
  | cons blank before =>
    left
    apply ofChars_of_ne
    rintro rfl
    exact absurd (blank_before '-' List.mem_cons_self) (by decide)
  | nil =>
    obtain ⟨digit, rest, is_digit, opens⟩ := s.text_opens
    have unsigned : digit ≠ '-' := Triple.ne_separator_of_isDigit is_digit
    cases opens with
    | inl plain =>
      rw [plain]
      exact .inl (ofChars_of_ne unsigned)
    | inr signed =>
      rw [signed]
      exact .inr ⟨digit, rest ++ after, is_digit, ofChars_of_hyphen unsigned⟩

end Argument

namespace Flags

variable {f g : Flags} {arguments rest : List String}

theorem takeCluster_letters (f : Flags) (n : Nat) :
    f.takeCluster (List.replicate n 'v') = .ok ⟨f.verbosity + n, f.json⟩ := by
  induction n generalizing f with
  | zero => rfl
  | succ n ih =>
    rw [List.replicate_succ, takeCluster, if_pos rfl, ih, louder, Nat.add_right_comm]
    rfl

theorem parseFrom_step (h : f.Step arguments g) :
    parseFrom f (arguments ++ rest) = parseFrom g rest := by
  cases h with
  | letters f more =>
    rw [List.singleton_append, parseFrom, Argument.ofChars_verboseCluster]
    simp only [takeCluster, if_pos, takeCluster_letters]
    rfl
  | verbose f => rfl
  | json v => rfl

theorem parseFrom_along (h : Along Step f arguments g) :
    parseFrom f (arguments ++ rest) = parseFrom g rest := by
  induction h with
  | nil f => rfl
  | cons one more ih => rw [List.append_assoc, parseFrom_step one, ih]

end Flags

namespace Reading

variable {form : Form} {r s : Reading} {arguments rest : List String} {argument : String}

theorem takeAll_cons (not_escape : argument ≠ "--") (h : r.take form argument = .ok (s, false)) :
    r.takeAll form (argument :: rest) = s.takeAll form rest := by
  cases rest with
  | nil => simp only [takeAll, if_neg not_escape, h]; rfl
  | cons next rest => simp only [takeAll, if_neg not_escape, h]; rfl

theorem takeCluster_cons (form : Form) (r : Reading) (letters : List Char) :
    r.takeCluster form ('v' :: letters) = r.louder.takeCluster form letters := rfl

theorem takeCluster_letters (form : Form) (r : Reading) (n : Nat) :
    r.takeCluster form (List.replicate n 'v') =
      .ok (⟨⟨r.flags.verbosity + n, r.flags.json⟩, r.date, r.calendar⟩, false) := by
  induction n generalizing r with
  | zero => rfl
  | succ n ih =>
    rw [List.replicate_succ, takeCluster_cons, ih, louder, Flags.louder, Nat.add_right_comm]
    rfl

theorem take_long {name : List Char} {value : Option (List Char)}
    (kind : .ofChars argument.toList = Argument.long name value) :
    r.take form argument = r.takeLong form argument name value := by
  rw [take, kind]

theorem take_cluster {letters : List Char} (kind : .ofChars argument.toList = Argument.cluster letters)
    (known : letters.all form.knows) : r.take form argument = r.takeCluster form letters := by
  rw [take, kind]
  simp only [known, not_true_eq_false, and_false, if_false]

theorem take_verboseCluster (form : Form) (r : Reading) (more : Nat) :
    r.take form (verboseCluster more) =
      .ok (⟨⟨r.flags.verbosity + 1 + more, r.flags.json⟩, r.date, r.calendar⟩, false) := by
  have known : ('v' :: List.replicate more 'v').all form.knows := by
    rw [List.all_eq_true, ← List.replicate_succ]
    intro c hc
    rw [List.eq_of_mem_replicate hc]
    rfl
  rw [take_cluster (Argument.ofChars_verboseCluster more) known, takeCluster_cons, takeCluster_letters]
  rfl

theorem takeAll_wanting {next : String} (not_escape : argument ≠ "--")
    (h : r.take form argument = .ok (s, true)) :
    r.takeAll form (argument :: next :: rest) =
      (s.setCalendar next).bind fun s => s.takeAll form rest := by
  simp only [takeAll, if_neg not_escape, h]
  rfl

theorem takeAll_flags {f g : Flags} (one : f.Step arguments g) (date : Option String)
    (calendar : Option Calendar) :
    takeAll form ⟨f, date, calendar⟩ (arguments ++ rest) = takeAll form ⟨g, date, calendar⟩ rest := by
  cases one with
  | letters f more =>
    have kind := Argument.ofChars_verboseCluster more
    exact takeAll_cons (Argument.ne_escape kind nofun) (take_verboseCluster form _ more)
  | verbose f => exact takeAll_cons (by decide) rfl
  | json v => exact takeAll_cons (by decide) rfl

theorem takeAll_names {c : Calendar} (names : Names c arguments) (flags : Flags)
    (date : Option String) :
    takeAll .display ⟨flags, date, none⟩ (arguments ++ rest) =
      takeAll .display ⟨flags, date, some c⟩ rest := by
  have set {name : String} (known : Calendar.read name = .ok c) :
      (⟨flags, date, none⟩ : Reading).setCalendar name = .ok ⟨flags, date, some c⟩ := by
    simp only [setCalendar, known]
    rfl
  cases names with
  | short name known =>
    have kind : Argument.ofChars "-c".toList = .cluster ['c'] := rfl
    have wants : take .display ⟨flags, date, none⟩ "-c" = .ok (⟨flags, date, none⟩, true) := by
      rw [take_cluster kind rfl]
      rfl
    rw [List.cons_append, List.singleton_append, takeAll_wanting (by decide) wants, set known]
    rfl
  | long name known =>
    have kind : Argument.ofChars "--calendar".toList = .long "calendar".toList none := rfl
    have wants : take .display ⟨flags, date, none⟩ "--calendar" =
        .ok (⟨flags, date, none⟩, true) := by
      rw [take_long kind]
      rfl
    rw [List.cons_append, List.singleton_append, takeAll_wanting (by decide) wants, set known]
    rfl
  | joined name known =>
    have kind := Argument.ofChars_joined name
    apply takeAll_cons (Argument.ne_escape kind nofun)
    rw [take_long kind, takeLong, String.ofList_toList, set known]
    rfl

theorem takeAll_step (h : Step form r arguments s) :
    r.takeAll form (arguments ++ rest) = s.takeAll form rest := by
  cases h with
  | flags date calendar one => exact takeAll_flags one date calendar
  | calendar flags date names => exact takeAll_names names flags date

theorem takeAll_along (h : Along (Step form) r arguments s) :
    r.takeAll form (arguments ++ rest) = s.takeAll form rest := by
  induction h with
  | nil r => rfl
  | cons one more ih => rw [List.append_assoc, takeAll_step one, ih]

theorem date_along (h : Along (Step form) r arguments s) : s.date = r.date := by
  induction h with
  | nil r => rfl
  | cons one more ih =>
    rw [ih]
    cases one <;> rfl

theorem setDate_of_none (h : r.date = none) (text : String) :
    r.setDate text = .ok ⟨r.flags, some text, r.calendar⟩ := by
  rw [setDate, h]
  rfl

theorem takeAll_escape (h : r.date = none) (text : String) :
    r.takeAll form ["--", text] = .ok ⟨r.flags, some text, r.calendar⟩ := by
  rw [takeAll, if_pos rfl, takeRest, setDate_of_none h]
  rfl

theorem knows_digit (form : Form) {digit : Char} (h : digit.isDigit) : form.knows digit = false := by
  have no_letter : digit ≠ 'v' ∧ digit ≠ 'h' ∧ digit ≠ 'c' := by
    refine ⟨?_, ?_, ?_⟩ <;> rintro rfl <;> revert h <;> decide
  simp [Form.knows, no_letter]

theorem takeAll_of_read {text : String} {t : Triple} (h : r.date = none)
    (reads : Triple.read text.toList = .ok t) :
    r.takeAll form [text] = .ok ⟨r.flags, some text, r.calendar⟩ := by
  rcases Argument.ofChars_of_read reads with word | ⟨digit, rest, is_digit, cluster⟩
  · apply takeAll_cons (Argument.ne_escape word nofun)
    rw [take, word]
    simp only [setDate_of_none h]
    rfl
  · -- No option is a digit, so the cluster is not one of options.
    apply takeAll_cons (Argument.ne_escape cluster nofun)
    rw [take, cluster]
    simp only [h, List.all_cons, knows_digit form is_digit, setDate_of_none h]
    rfl

end Reading

/-- A call of a command, less its date: the arguments before and after its name, and what they
give. -/
structure Usage where
  form : Form
  before : List String
  outer : Flags
  after : List String
  reading : Reading
  before_gives : Along Flags.Step .none before outer
  after_gives : Along (Reading.Step form) .start after reading

namespace Usage

def plain (form : Form) : Usage := ⟨form, [], .none, [], .start, .nil _, .nil _⟩

/-- The arguments, with the date after `--`. -/
def arguments (u : Usage) (date : String) : List String :=
  u.before ++ u.form.name :: (u.after ++ ["--", date])

/-- The arguments, with the date as it is. -/
def bare (u : Usage) (date : String) : List String := u.before ++ u.form.name :: (u.after ++ [date])

def flags (u : Usage) : Flags := u.outer.within u.reading.flags

def command (u : Usage) (date : String) : Command :=
  match u.form with
  | .convert direction => .convert direction date
  | .display => .display (u.reading.calendar.getD .gregorian) date

def invocation (u : Usage) (date : String) : Invocation :=
  ⟨u.flags.verbosity, u.flags.json, u.command date⟩

theorem reading_date (u : Usage) : u.reading.date = none := Reading.date_along u.after_gives

theorem parse_of_takeAll (u : Usage) {date : String} {rest : List String}
    (h : u.reading.takeAll u.form rest =
      .ok ⟨u.reading.flags, some date, u.reading.calendar⟩) :
    parse (u.before ++ u.form.name :: (u.after ++ rest)) = .ok (u.invocation date) := by
  rw [parse, Flags.parseFrom_along u.before_gives, parseFrom, Argument.ofChars_name]
  simp only [Form.ofName?_name, Reading.takeAll_along u.after_gives, h]
  rfl

theorem parse_arguments (u : Usage) (date : String) :
    parse (u.arguments date) = .ok (u.invocation date) :=
  u.parse_of_takeAll (Reading.takeAll_escape u.reading_date date)

/-- A text that reads as a triple needs no `--`, though it may begin with a hyphen. -/
theorem parse_bare (u : Usage) {date : String} {t : Triple} (h : Triple.read date.toList = .ok t) :
    parse (u.bare date) = .ok (u.invocation date) :=
  u.parse_of_takeAll (Reading.takeAll_of_read u.reading_date h)

end Usage

end Calendrics.CommandLine
