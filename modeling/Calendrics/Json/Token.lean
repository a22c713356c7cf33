import Calendrics.Text.Decimal
import Calendrics.Text.Hexadecimal

/-! JSON text as tokens. A text has tokens whatever it is: where it stops being JSON the token
`malformed` stands, and nothing after it. Strings are kept as their units, because a string that
nobody reads may hold a lone surrogate. -/
namespace Calendrics.Json

/-- A unit of a string: a character as it stands or by a short escape, or a 16-bit code. -/
inductive StringUnit where
  | char (c : Char)
  | code (n : Nat)
  deriving DecidableEq, Repr

inductive Token where
  | openArray
  | closeArray
  | openObject
  | closeObject
  | comma
  | colon
  | null
  | bool (b : Bool)
  | integer (n : Int)
  | number
  | string (units : List StringUnit)
  | malformed
  deriving DecidableEq, Repr

def isSpace (c : Char) : Bool := c = ' ' || c = '\t' || c = '\n' || c = '\r'

def hexCode (a b c d : Char) : Option Nat := do
  let a ← Text.hexDigit a
  let b ← Text.hexDigit b
  let c ← Text.hexDigit c
  let d ← Text.hexDigit d
  return ((a * 16 + b) * 16 + c) * 16 + d

def shortEscape (c : Char) : Option Char :=
  if c = '"' ∨ c = '\\' ∨ c = '/' then some c
  else if c = 'b' then some '\x08'
  else if c = 'f' then some '\x0c'
  else if c = 'n' then some '\n'
  else if c = 'r' then some '\r'
  else if c = 't' then some '\t'
  else none

/-- A character that stands for itself in a string. -/
def isPlain (c : Char) : Bool := c ≠ '"' && c ≠ '\\' && 0x20 ≤ c.toNat

/-- The units of a string up to its closing quote, and the text after the quote. -/
def lexString : List Char → Option (List StringUnit × List Char)
  | [] => none
  | '"' :: cs => some ([], cs)
  | '\\' :: 'u' :: a :: b :: c :: d :: cs => do
    let n ← hexCode a b c d
    let (units, rest) ← lexString cs
    return (.code n :: units, rest)
  | '\\' :: e :: cs => do
    let c ← shortEscape e
    let (units, rest) ← lexString cs
    return (.char c :: units, rest)
  | c :: cs =>
    if isPlain c then do
      let (units, rest) ← lexString cs
      return (.char c :: units, rest)
    else none

/-- The digits at the head of a text, at least one, and the text after them. -/
def lexDigits (cs : List Char) : Option (List Char × List Char) :=
  if cs.takeWhile Char.isDigit = [] then none
  else some (cs.takeWhile Char.isDigit, cs.dropWhile Char.isDigit)

def skipExponent : List Char → Option (List Char)
  | c :: cs =>
    if c = 'e' ∨ c = 'E' then
      match cs with
      | s :: rest =>
        if s = '+' ∨ s = '-' then (lexDigits rest).map (·.2) else (lexDigits (s :: rest)).map (·.2)
      | [] => none
    else some (c :: cs)
  | [] => some []

def skipFraction : List Char → Option (List Char)
  | '.' :: cs => (lexDigits cs).bind fun r => skipExponent r.2
  | cs => skipExponent cs

/-- Digits with no leading zero before another digit. -/
def IsWhole (ds : List Char) : Prop := ds.head? = some '0' → ds = ['0']

instance (ds : List Char) : Decidable (IsWhole ds) :=
  inferInstanceAs (Decidable (ds.head? = some '0' → ds = ['0']))

/-- The token of a number without fraction and exponent. Minus zero is no integer. -/
def wholeToken (negative : Bool) (ds : List Char) : Token :=
  if negative then if Decimal.value ds = 0 then .number else .integer (-(Decimal.value ds : Int))
  else .integer (Decimal.value ds)

def lexNumber (negative : Bool) (cs : List Char) : Option (Token × List Char) := do
  let (ds, rest) ← lexDigits cs
  if IsWhole ds then
    let after ← skipFraction rest
    return (if after = rest then wholeToken negative ds else .number, after)
  else none

def afterWord (word cs : List Char) : Option (List Char) :=
  if word.isPrefixOf cs then some (cs.drop word.length) else none

/-- The token that a text begins with, and the text after it. -/
def lex (cs : List Char) : Option (Token × List Char) :=
  match cs with
  | [] => none
  | '[' :: cs => some (.openArray, cs)
  | ']' :: cs => some (.closeArray, cs)
  | '\x7b' :: cs => some (.openObject, cs)
  | '\x7d' :: cs => some (.closeObject, cs)
  | ',' :: cs => some (.comma, cs)
  | ':' :: cs => some (.colon, cs)
  | '"' :: cs => (lexString cs).map fun r => (.string r.1, r.2)
  | '-' :: cs => lexNumber true cs
  | 'n' :: cs => (afterWord ['u', 'l', 'l'] cs).map (Token.null, ·)
  | 't' :: cs => (afterWord ['r', 'u', 'e'] cs).map (Token.bool true, ·)
  | 'f' :: cs => (afterWord ['a', 'l', 's', 'e'] cs).map (Token.bool false, ·)
  | c :: cs => lexNumber false (c :: cs)

theorem length_lexString {cs rest : List Char} {units : List StringUnit}
    (h : lexString cs = some (units, rest)) : rest.length < cs.length := by
  fun_induction lexString cs generalizing units with
  | case1 => cases h
  | case2 cs =>
    cases h
    exact Nat.lt_succ_self _
  | case3 a b c d cs ih =>
    simp only [Option.bind_eq_bind, Option.bind_eq_some_iff, Option.pure_def,
      Option.some.injEq, Prod.mk.injEq] at h
    obtain ⟨n, _, ⟨us, r⟩, inner, _, rfl⟩ := h
    have shorter := ih inner
    simp only [List.length_cons] at shorter ⊢
    omega
  | case4 e cs _ ih =>
    simp only [Option.bind_eq_bind, Option.bind_eq_some_iff, Option.pure_def,
      Option.some.injEq, Prod.mk.injEq] at h
    obtain ⟨c, _, ⟨us, r⟩, inner, _, rfl⟩ := h
    have shorter := ih inner
    simp only [List.length_cons] at shorter ⊢
    omega
  | case5 c cs _ _ _ _ ih =>
    simp only [Option.bind_eq_bind, Option.bind_eq_some_iff, Option.pure_def,
      Option.some.injEq, Prod.mk.injEq] at h
    obtain ⟨⟨us, r⟩, inner, _, rfl⟩ := h
    have shorter := ih inner
    simp only [List.length_cons] at shorter ⊢
    omega
  | case6 => cases h

theorem length_lexDigits {cs ds rest : List Char} (h : lexDigits cs = some (ds, rest)) :
    rest.length < cs.length := by
  simp only [lexDigits] at h
  split at h
  · cases h
  · rename_i some_digit
    cases h
    have whole :=
      congrArg List.length (List.takeWhile_append_dropWhile (p := Char.isDigit) (l := cs))
    have taken : 0 < (cs.takeWhile Char.isDigit).length := List.length_pos_iff.mpr some_digit
    rw [List.length_append] at whole
    omega

theorem length_skipExponent {cs rest : List Char} (h : skipExponent cs = some rest) :
    rest.length ≤ cs.length := by
  cases cs with
  | nil =>
    cases h
    exact Nat.le_refl _
  | cons c cs =>
    simp only [skipExponent] at h
    split at h
    · cases cs with
      | nil => cases h
      | cons s cs =>
        simp only at h
        split at h
        all_goals
          obtain ⟨⟨ds, r⟩, digits, rfl⟩ := Option.map_eq_some_iff.mp h
          have shorter := length_lexDigits digits
          simp only [List.length_cons] at shorter ⊢
          omega
    · cases h
      exact Nat.le_refl _

theorem length_skipFraction {cs rest : List Char} (h : skipFraction cs = some rest) :
    rest.length ≤ cs.length := by
  rw [skipFraction.eq_def] at h
  split at h
  · obtain ⟨⟨ds, r⟩, digits, after⟩ := Option.bind_eq_some_iff.mp h
    have shorter := length_lexDigits digits
    have no_longer := length_skipExponent after
    simp only [List.length_cons] at shorter no_longer ⊢
    omega
  · exact length_skipExponent h

theorem length_lexNumber {negative : Bool} {cs rest : List Char} {t : Token}
    (h : lexNumber negative cs = some (t, rest)) : rest.length < cs.length := by
  simp only [lexNumber, Option.bind_eq_bind, Option.bind_eq_some_iff, Option.pure_def] at h
  obtain ⟨⟨ds, r⟩, digits, h⟩ := h
  simp only at h
  split at h
  · obtain ⟨after, fraction, same⟩ := Option.bind_eq_some_iff.mp h
    cases same
    have shorter := length_lexDigits digits
    have no_longer := length_skipFraction fraction
    omega
  · cases h

theorem length_afterWord {word cs rest : List Char} (h : afterWord word cs = some rest) :
    rest.length ≤ cs.length := by
  simp only [afterWord] at h
  split at h
  · cases h
    rw [List.length_drop]
    exact Nat.sub_le _ _
  · cases h

theorem length_lex {cs rest : List Char} {t : Token} (h : lex cs = some (t, rest)) :
    rest.length < cs.length := by
  rw [lex.eq_def] at h
  split at h
  case h_1 => cases h
  case h_8 =>
    obtain ⟨⟨units, r⟩, string, same⟩ := Option.map_eq_some_iff.mp h
    cases same
    have shorter := length_lexString string
    simp only [List.length_cons]
    omega
  case h_9 =>
    have shorter := length_lexNumber h
    simp only [List.length_cons]
    omega
  case h_10 | h_11 | h_12 =>
    obtain ⟨r, word, same⟩ := Option.map_eq_some_iff.mp h
    cases same
    have no_longer := length_afterWord word
    simp only [List.length_cons]
    omega
  case h_13 => exact length_lexNumber h
  all_goals
    cases h
    exact Nat.lt_succ_self _

theorem length_dropWhile_le (p : Char → Bool) (cs : List Char) :
    (cs.dropWhile p).length ≤ cs.length :=
  (List.dropWhile_sublist p).length_le

def tokens (cs : List Char) : List Token :=
  if cs.dropWhile isSpace = [] then []
  else
    match _lexed : lex (cs.dropWhile isSpace) with
    | none => [.malformed]
    | some (t, rest) => t :: tokens rest
termination_by cs.length
decreasing_by
  exact Nat.lt_of_lt_of_le (length_lex ‹_›) (length_dropWhile_le isSpace cs)

end Calendrics.Json
