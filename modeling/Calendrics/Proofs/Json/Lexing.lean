import Calendrics.Proofs.Json.Spelling
import Calendrics.Proofs.Numeral

/-! The tokens of JSON text. Each spelled part gives the tokens that it should, whatever follows it;
only a number must be followed by a character that could not be its next. Main statements:
`tokens_spaces`, `lex_string`, `lex_atom`. -/
namespace Calendrics.Json

section

variable {cs rest : List Char} {t : Token}

theorem tokens_eq (cs : List Char) : tokens cs =
    if cs.dropWhile isSpace = [] then []
    else match lex (cs.dropWhile isSpace) with
      | none => [.malformed]
      | some (t, rest) => t :: tokens rest := by
  rw [tokens]
  split
  case isTrue => rfl
  case isFalse =>
    split
    case h_1 lexed => rw [lexed]
    case h_2 t rest lexed => rw [lexed]

theorem tokens_spaces {ws : List Char} (h : Spaces ws) (cs : List Char) :
    tokens (ws ++ cs) = tokens cs := by
  rw [tokens_eq, tokens_eq cs, List.dropWhile_append_of_pos h]

/- No token begins with a space. -/
theorem isSpace_of_lex {c : Char} (h : lex (c :: cs) = some (t, rest)) : isSpace c = false := by
  by_contra space
  simp only [Bool.not_eq_false, isSpace, Bool.or_eq_true, decide_eq_true_eq] at space
  rcases space with ((rfl | rfl) | rfl) | rfl
  all_goals simp [lex, lexNumber, lexDigits] at h

theorem tokens_of_lex (h : lex cs = some (t, rest)) : tokens cs = t :: tokens rest := by
  cases cs with
  | nil => simp [lex] at h
  | cons c cs =>
    have kept : (c :: cs).dropWhile isSpace = c :: cs := by
      rw [List.dropWhile_cons, isSpace_of_lex h]
      rfl
    rw [tokens_eq, kept, if_neg (List.cons_ne_nil c cs), h]

end

section

variable {us : Units} {cs rest : List Char}

theorem lexString_plain {c : Char} (plain : isPlain c) (inner : lexString cs = some (us, rest)) :
    lexString (c :: cs) = some (.char c :: us, rest) := by
  obtain ⟨no_quote, no_escape, -⟩ := isPlain_iff.mp plain
  rw [lexString.eq_def]
  split
  all_goals simp_all

theorem lexString_escape {e c : Char} (short : shortEscape e = some c)
    (inner : lexString cs = some (us, rest)) :
    lexString ('\\' :: e :: cs) = some (.char c :: us, rest) := by
  have no_code : e ≠ 'u' := by
    rintro rfl
    revert short
    simp [shortEscape]
  have no_hex : ∀ a b c d rest, e = 'u' → cs = a :: b :: c :: d :: rest → False :=
    fun _ _ _ _ _ code _ => no_code code
  rw [lexString]
  · simp [short, inner]
  · exact no_hex

theorem lexString_code {a b c d : Char} {n : Nat} (hex : hexCode a b c d = some n)
    (inner : lexString cs = some (us, rest)) :
    lexString ('\\' :: 'u' :: a :: b :: c :: d :: cs) = some (.code n :: us, rest) := by
  simp [lexString, hex, inner]

theorem lexString_units (h : UnitsText us cs) (rest : List Char) :
    lexString (cs ++ '"' :: rest) = some (us, rest) := by
  induction h with
  | nil => rfl
  | cons unit _ ih =>
    cases unit with
    | plain plain => exact lexString_plain plain ih
    | escape short => exact lexString_escape short ih
    | code hex => exact lexString_code hex ih

theorem lex_string (h : StringText us cs) (rest : List Char) :
    lex (cs ++ rest) = some (.string us, rest) := by
  cases h with
  | quoted units =>
    rw [List.cons_append, List.append_assoc, List.singleton_append, lex, lexString_units units]
    rfl

end

/-- A text that does not go on with a number. -/
def Ends (rest : List Char) : Prop :=
  ∀ c ∈ rest.head?, c.isDigit = false ∧ c ≠ '.' ∧ c ≠ 'e' ∧ c ≠ 'E'

section

variable {cs ds rest : List Char}

/- The digits of a run are taken up to its end, because what follows begins with none. -/
theorem lexDigits_run (run : Decimal.IsRun ds) (ends : ∀ c ∈ rest.head?, c.isDigit = false) :
    lexDigits (ds ++ rest) = some (ds, rest) := by
  have digits : ∀ c ∈ ds, c.isDigit := fun _ => Decimal.isDigit_of_mem_run run
  have stop : rest.takeWhile Char.isDigit = [] ∧ rest.dropWhile Char.isDigit = rest := by
    cases rest with
    | nil => exact ⟨rfl, rfl⟩
    | cons c rest =>
      have other : c.isDigit = false := ends c rfl
      simp [other]
  rw [lexDigits, List.takeWhile_append_of_pos digits, List.dropWhile_append_of_pos digits, stop.1, stop.2,
    List.append_nil, if_neg run.1]

theorem skipExponent_text {exponent : List Char} (text : ExponentText exponent) (ends : Ends rest) :
    skipExponent (exponent ++ rest) = some rest := by
  have no_digit : ∀ c ∈ rest.head?, c.isDigit = false := fun c hc => (ends c hc).1
  cases text with
  | none =>
    cases rest with
    | nil => rfl
    | cons c rest =>
      have other := ends c rfl
      simp [skipExponent, other.2.2.1, other.2.2.2]
  | unsigned mark run =>
    obtain ⟨d, ds, rfl⟩ := List.exists_cons_of_ne_nil run.1
    have unsigned : ¬ (d = '+' ∨ d = '-') := by
      have digit := Decimal.isDigit_of_mem_run run List.mem_cons_self
      rintro (rfl | rfl)
      · revert digit
        decide
      · revert digit
        decide
    have after := lexDigits_run run no_digit
    rw [List.cons_append] at after
    simp only [List.cons_append, skipExponent, if_pos mark, if_neg unsigned, after, Option.map_some]
  | signed mark sign run =>
    simp only [List.cons_append, skipExponent, if_pos mark, if_pos sign, lexDigits_run run no_digit,
      Option.map_some]

/- An exponent begins with no digit, nor does what follows a number. -/
theorem no_digit_exponent {exponent : List Char} (text : ExponentText exponent) (ends : Ends rest) :
    ∀ c ∈ (exponent ++ rest).head?, c.isDigit = false ∧ c ≠ '.' := by
  have of_mark : ∀ e : Char, e = 'e' ∨ e = 'E' → e.isDigit = false ∧ e ≠ '.' := by
    rintro e (rfl | rfl)
    · decide
    · decide
  cases text with
  | none => exact fun c hc => ⟨(ends c hc).1, (ends c hc).2.1⟩
  | unsigned mark run =>
    rintro c ⟨⟩
    exact of_mark _ mark
  | signed mark sign run =>
    rintro c ⟨⟩
    exact of_mark _ mark

theorem skipFraction_text {fraction exponent : List Char} (fraction_text : FractionText fraction)
    (exponent_text : ExponentText exponent) (ends : Ends rest) :
    skipFraction (fraction ++ (exponent ++ rest)) = some rest := by
  have next := no_digit_exponent exponent_text ends
  have skipped := skipExponent_text exponent_text ends
  cases fraction_text with
  | none =>
    rw [List.nil_append, skipFraction.eq_def]
    split
    case h_1 opens => exact absurd rfl (next '.' (by rw [opens]; rfl)).2
    case h_2 => exact skipped
  | digits run =>
    rw [List.cons_append, skipFraction, lexDigits_run run fun c hc => (next c hc).1, Option.bind_some,
      skipped]

theorem no_digit_fraction {fraction exponent : List Char} (fraction_text : FractionText fraction)
    (exponent_text : ExponentText exponent) (ends : Ends rest) :
    ∀ c ∈ (fraction ++ (exponent ++ rest)).head?, c.isDigit = false := by
  cases fraction_text with
  | none => exact fun c hc => (no_digit_exponent exponent_text ends c hc).1
  | digits run =>
    rintro c ⟨⟩
    decide

theorem lexNumber_text {fraction exponent : List Char} (negative : Bool) (run : Decimal.IsRun ds)
    (whole : IsWhole ds) (fraction_text : FractionText fraction)
    (exponent_text : ExponentText exponent) (ends : Ends rest) :
    lexNumber negative (ds ++ (fraction ++ (exponent ++ rest))) =
      some (if fraction ++ exponent = [] then wholeToken negative ds else .number, rest) := by
  have digits := lexDigits_run run (no_digit_fraction fraction_text exponent_text ends)
  have skipped := skipFraction_text fraction_text exponent_text ends
  have nothing : rest = fraction ++ (exponent ++ rest) ↔ fraction ++ exponent = [] := by
    rw [← List.append_assoc, List.self_eq_append_left]
  simp [lexNumber, digits, whole, skipped, nothing]

theorem lex_of_isDigit {c : Char} (digit : c.isDigit) (cs : List Char) :
    lex (c :: cs) = lexNumber false (c :: cs) := by
  rw [lex.eq_def]
  split
  all_goals simp_all

theorem lex_natural (run : Decimal.IsRun ds) (rest : List Char) :
    lex (ds ++ rest) = lexNumber false (ds ++ rest) := by
  obtain ⟨d, more, rfl⟩ := List.exists_cons_of_ne_nil run.1
  exact lex_of_isDigit (Decimal.isDigit_of_mem_run run List.mem_cons_self) (more ++ rest)

theorem lexNumber_whole (negative : Bool) (run : Decimal.IsRun ds) (whole : IsWhole ds)
    (ends : Ends rest) : lexNumber negative (ds ++ rest) = some (wholeToken negative ds, rest) :=
  lexNumber_text negative run whole .none .none ends

end

def Value.token : Value → Token
  | .null => .null
  | .bool b => .bool b
  | .integer n => .integer n
  | .number => .number
  | .string us => .string us
  | .array _ _ => .malformed
  | .object _ _ => .malformed

/-- An atom gives its token, unless what follows it goes on with a number. -/
theorem lex_atom {v : Value} {cs rest : List Char} (text : AtomText v cs) (ends : Ends rest) :
    lex (cs ++ rest) = some (v.token, rest) := by
  cases text with
  | null => rfl
  | true => rfl
  | false => rfl
  | string text => exact lex_string text rest
  | natural run whole =>
    rw [lex_natural run, lexNumber_whole false run whole ends]
    rfl
  | negative run whole positive =>
    rw [List.cons_append, lex, lexNumber_whole true run whole ends, wholeToken, if_pos rfl, if_neg positive]
    rfl
  | minusZero =>
    have zero : Decimal.IsRun ['0'] := by decide
    exact lexNumber_whole true zero (by decide) ends
  | @number negative ds f e run whole fraction exponent not_whole =>
    have lexed := lexNumber_text negative run whole fraction exponent ends
    rw [if_neg not_whole] at lexed
    simp only [List.append_assoc] at lexed ⊢
    cases negative with
    | true => exact lexed
    | false => exact (lex_natural run _).trans lexed

end Calendrics.Json
