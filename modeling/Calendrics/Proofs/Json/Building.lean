import Calendrics.Json.Reader
import Calendrics.Proofs.Json.Lexing

/-! A JSON text is read as the value that it stands for. The values of a text are built on a stack
of open containers; what is proved of each part is what building makes of its text with any
containers open and any text after it. Main statements: `build_isText`, `read_of_isText`. -/
namespace Calendrics.Json

variable {v : Value} {frames : List Frame} {mode : Mode} {rest : List Char} {ts : List Token}

/-- What is built once a value is handed to the open containers. -/
def resume (v : Value) (frames : List Frame) (ts : List Token) : Option Value × List Token :=
  match deliver v frames with
  | .more mode frames => build mode frames ts
  | .done v => (some v, ts)
  | .broken => (abandon frames, ts)

/-- The innermost open container waits for a value, or none is open. -/
def Ready : List Frame → Prop
  | .members _ :: _ => False
  | _ => True

theorem resume_items (before : List Value) :
    resume v (.items before :: frames) ts = build .separator (.items (v :: before) :: frames) ts := rfl

theorem resume_member (before : List (Units × Value)) (key : Units) :
    resume v (.member before key :: frames) ts =
      build .separator (.members ((key, v) :: before) :: frames) ts := rfl

theorem build_of_step {t : Token} {opened : List Frame} (ready : Ready frames)
    (h : step mode opened t = deliver v frames) : build mode opened (t :: ts) = resume v frames ts := by
  rw [build, resume, h]
  cases frames with
  | nil => rfl
  | cons f frames =>
    cases f with
    | items before => rfl
    | members before => cases ready
    | member before key => rfl

def Mode.TakesValue (mode : Mode) : Prop := mode = .value ∨ mode = .firstItem

def Mode.TakesKey (mode : Mode) : Prop := mode = .key ∨ mode = .firstKey

theorem step_atom {cs : List Char} (text : AtomText v cs) (takes : mode.TakesValue) :
    step mode frames v.token = deliver v frames := by
  rcases takes with rfl | rfl
  · cases text <;> rfl
  · cases text <;> rfl

theorem tokens_symbol {c : Char} {t : Token} (h : ∀ cs, lex (c :: cs) = some (t, cs)) (cs : List Char) :
    tokens (c :: cs) = t :: tokens cs :=
  tokens_of_lex (h cs)

theorem build_open_array (takes : mode.TakesValue) (cs : List Char) :
    build mode frames (tokens ('[' :: cs)) = build .firstItem (.items [] :: frames) (tokens cs) := by
  rw [tokens_symbol fun _ => rfl]
  rcases takes with rfl | rfl
  · rfl
  · rfl

theorem build_open_object (takes : mode.TakesValue) (cs : List Char) :
    build mode frames (tokens ('\x7b' :: cs)) = build .firstKey (.members [] :: frames) (tokens cs) := by
  rw [tokens_symbol fun _ => rfl]
  rcases takes with rfl | rfl
  · rfl
  · rfl

theorem build_close_array (ready : Ready frames) (closes : mode = .firstItem ∨ mode = .separator)
    (before : List Value) (cs : List Char) :
    build mode (.items before :: frames) (tokens (']' :: cs)) =
      resume (.array before.reverse true) frames (tokens cs) := by
  rw [tokens_symbol fun _ => rfl]
  apply build_of_step ready
  rcases closes with rfl | rfl
  · rfl
  · rfl

theorem build_close_object (ready : Ready frames) (closes : mode = .firstKey ∨ mode = .separator)
    (before : List (Units × Value)) (cs : List Char) :
    build mode (.members before :: frames) (tokens ('\x7d' :: cs)) =
      resume (.object before.reverse true) frames (tokens cs) := by
  rw [tokens_symbol fun _ => rfl]
  apply build_of_step ready
  rcases closes with rfl | rfl
  · rfl
  · rfl

theorem build_comma_items (before : List Value) (cs : List Char) :
    build .separator (.items before :: frames) (tokens (',' :: cs)) =
      build .value (.items before :: frames) (tokens cs) := by
  rw [tokens_symbol fun _ => rfl]
  rfl

theorem build_comma_members (before : List (Units × Value)) (cs : List Char) :
    build .separator (.members before :: frames) (tokens (',' :: cs)) =
      build .key (.members before :: frames) (tokens cs) := by
  rw [tokens_symbol fun _ => rfl]
  rfl

theorem build_colon (cs : List Char) :
    build .colon frames (tokens (':' :: cs)) = build .value frames (tokens cs) := by
  rw [tokens_symbol fun _ => rfl]
  rfl

theorem build_key {key : Units} {name : List Char} (text : StringText key name) (takes : mode.TakesKey)
    (before : List (Units × Value)) (cs : List Char) :
    build mode (.members before :: frames) (tokens (name ++ cs)) =
      build .colon (.member before key :: frames) (tokens cs) := by
  rw [tokens_of_lex (lex_string text cs)]
  rcases takes with rfl | rfl
  · rfl
  · rfl

theorem ends_of_spaces {ws : List Char} (spaces : Spaces ws) (ends : Ends rest) : Ends (ws ++ rest) := by
  cases ws with
  | nil => exact ends
  | cons c ws =>
    rintro d ⟨⟩
    have space := spaces c List.mem_cons_self
    simp only [isSpace, Bool.or_eq_true, decide_eq_true_eq] at space
    rcases space with ((rfl | rfl) | rfl) | rfl <;> decide

theorem ends_cons {c : Char} (other : c.isDigit = false ∧ c ≠ '.' ∧ c ≠ 'e' ∧ c ≠ 'E')
    (cs : List Char) : Ends (c :: cs) := by
  rintro d ⟨⟩
  exact other

/-- What building makes of the text of a part. -/
def Builds : Part → List Char → Prop
  | .value v, cs => ∀ mode frames rest, mode.TakesValue → Ready frames → Ends rest →
    build mode frames (tokens (cs ++ rest)) = resume v frames (tokens rest)
  | .element v, cs => ∀ mode frames rest, mode.TakesValue → Ready frames → Ends rest →
    build mode frames (tokens (cs ++ rest)) = resume v frames (tokens rest)
  | .items vs, cs => ∀ mode before frames rest, mode.TakesValue → Ready frames →
    build mode (.items before :: frames) (tokens (cs ++ ']' :: rest)) =
      resume (.array (before.reverse ++ vs) true) frames (tokens rest)
  | .member key v, cs => ∀ mode before frames rest, mode.TakesKey → Ends rest →
    build mode (.members before :: frames) (tokens (cs ++ rest)) =
      build .separator (.members ((key, v) :: before) :: frames) (tokens rest)
  | .members ms, cs => ∀ mode before frames rest, mode.TakesKey → Ready frames →
    build mode (.members before :: frames) (tokens (cs ++ '\x7d' :: rest)) =
      resume (.object (before.reverse ++ ms) true) frames (tokens rest)

/- One case for each way to spell a part; the containers that are open and the text that follows
stay free, because both change on the way in. -/
theorem builds_of_spells {p : Part} {cs : List Char} (h : Spells p cs) : Builds p cs := by
  induction h with
  | atom text =>
    intro mode frames rest takes ready ends
    rw [tokens_of_lex (lex_atom text ends)]
    exact build_of_step ready (step_atom text takes)
  | emptyArray spaces =>
    intro mode frames rest takes ready ends
    rw [List.cons_append, List.append_assoc, build_open_array takes, tokens_spaces spaces]
    exact build_close_array ready (.inl rfl) [] rest
  | array _ ih =>
    intro mode frames rest takes ready ends
    rw [List.cons_append, List.append_assoc, build_open_array takes]
    exact ih .firstItem [] frames rest (.inr rfl) ready
  | emptyObject spaces =>
    intro mode frames rest takes ready ends
    rw [List.cons_append, List.append_assoc, build_open_object takes, tokens_spaces spaces]
    exact build_close_object ready (.inl rfl) [] rest
  | object _ ih =>
    intro mode frames rest takes ready ends
    rw [List.cons_append, List.append_assoc, build_open_object takes]
    exact ih .firstKey [] frames rest (.inr rfl) ready
  | element spaces_before _ spaces_after ih =>
    intro mode frames rest takes ready ends
    rw [List.append_assoc, List.append_assoc, tokens_spaces spaces_before,
      ih mode frames _ takes ready (ends_of_spaces spaces_after ends), tokens_spaces spaces_after]
  | lastItem _ ih =>
    intro mode before frames rest takes ready
    have inner := ih mode (.items before :: frames) (']' :: rest) takes trivial
      (ends_cons (by decide) rest)
    rw [inner, resume_items, build_close_array ready (.inr rfl), List.reverse_cons]
  | @item v vs _ more _ _ ih ihs =>
    intro mode before frames rest takes ready
    have first := ih mode (.items before :: frames) (',' :: (more ++ ']' :: rest)) takes trivial
      (ends_cons (by decide) _)
    have others := ihs .value (v :: before) frames rest (.inl rfl) ready
    rw [List.append_assoc, List.cons_append, first, resume_items, build_comma_items, others,
      List.reverse_cons, List.append_assoc, List.singleton_append]
  | @keyed key _ _ _ _ _ spaces_before key_text spaces_after _ ih =>
    intro mode before frames rest takes ends
    have inner := ih .value (.member before key :: frames) rest (.inl rfl) trivial ends
    rw [List.append_assoc, List.append_assoc, List.append_assoc, List.cons_append,
      tokens_spaces spaces_before, build_key key_text takes, tokens_spaces spaces_after, build_colon, inner,
      resume_member]
  | lastMember _ ih =>
    intro mode before frames rest takes ready
    have inner := ih mode before frames ('\x7d' :: rest) takes (ends_cons (by decide) rest)
    rw [inner, build_close_object ready (.inr rfl), List.reverse_cons]
  | @member key v _ _ more _ _ ih ihs =>
    intro mode before frames rest takes ready
    have first := ih mode before frames (',' :: (more ++ '\x7d' :: rest)) takes
      (ends_cons (by decide) _)
    have others := ihs .key ((key, v) :: before) frames rest (.inl rfl) ready
    rw [List.append_assoc, List.cons_append, first, build_comma_members, others, List.reverse_cons,
      List.append_assoc, List.singleton_append]

/-- A text is built up to its value, and nothing is left of it. -/
theorem build_isText {text : String} (h : IsText v text) :
    build .value [] (tokens text.toList) = (some v, []) := by
  have built := builds_of_spells h .value [] [] (.inl rfl) trivial (fun _ nothing => by cases nothing)
  have none_left : tokens [] = [] := by
    rw [tokens_eq]
    rfl
  rw [List.append_nil, none_left] at built
  exact built

/-- What a text is read as depends on the value that it stands for, not on how it is spelled. -/
theorem read_of_isText {α : Type} {text : String} (h : IsText v text) (reader : Reader α) :
    read reader text = reader v := by
  rw [read, build_isText h]
  cases answer : reader v with
  | error e => simp [require, answer, bind, Except.bind]
  | ok a => simp [require, ensure, answer, bind, Except.bind, pure, Except.pure]

end Calendrics.Json
