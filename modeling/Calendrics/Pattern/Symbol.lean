import Calendrics.Pattern.Mode
import Calendrics.Text.Hexadecimal

/-! The smallest parts of a pattern. A backslash gives a character a meaning or takes its meaning
away. Patterns know cases, classes and word boundaries of ASCII alone, so in the Unicode mode all
that would need others is refused; out of it all that could match a byte beyond ASCII is. -/
namespace Calendrics.Pattern

/-- A part of a pattern that has no parts: a character, a character by its code in two digits, one
of the short classes, a boundary of a word, an end of the text or of a line, any character. -/
inductive Symbol where
  | char (c : Char)
  | byte (c : Char)
  | short (negated : Bool)
  | boundary
  | edge
  | any
  deriving DecidableEq

/-- Whether a character may be matched by its code: any in the Unicode mode if case counts, and one
of ASCII out of it. -/
def Mode.AllowsCode (m : Mode) (c : Char) : Prop :=
  if m.unicode then ¬ m.caseless else c.toNat < 128

instance (m : Mode) (c : Char) : Decidable (m.AllowsCode c) :=
  inferInstanceAs (Decidable (if m.unicode then ¬ m.caseless else c.toNat < 128))

namespace Symbol

def char? : Symbol → Option Char
  | char c => some c
  | byte c => some c
  | _ => none

def Allowed (m : Mode) : Symbol → Prop
  | char _ => ¬ (m.unicode ∧ m.caseless)
  | byte c => m.AllowsCode c
  | short negated => ¬ m.unicode ∧ ¬ negated
  | boundary => ¬ m.unicode
  | edge => True
  | any => m.unicode

instance (m : Mode) (s : Symbol) : Decidable (s.Allowed m) :=
  match s with
  | char _ => inferInstanceAs (Decidable (¬ _))
  | byte c => inferInstanceAs (Decidable (m.AllowsCode c))
  | short _ => inferInstanceAs (Decidable (_ ∧ _))
  | boundary => inferInstanceAs (Decidable (¬ _))
  | edge => isTrue trivial
  | any => inferInstanceAs (Decidable (m.unicode = true))

/-- What may stand between brackets: characters and short classes. -/
def AllowedInBrackets (m : Mode) : Symbol → Prop
  | char c => m.AllowsCode c
  | byte c => m.AllowsCode c
  | short negated => ¬ m.unicode ∧ ¬ negated
  | _ => False

instance (m : Mode) (s : Symbol) : Decidable (s.AllowedInBrackets m) :=
  match s with
  | char c => inferInstanceAs (Decidable (m.AllowsCode c))
  | byte c => inferInstanceAs (Decidable (m.AllowsCode c))
  | short _ => inferInstanceAs (Decidable (_ ∧ _))
  | boundary => isFalse id
  | edge => isFalse id
  | any => isFalse id

end Symbol

def escapes : List (Char × Symbol) :=
  [('a', .char '\x07'), ('f', .char '\x0c'), ('t', .char '\t'), ('n', .char '\n'),
    ('r', .char '\r'), ('v', .char '\x0b'), ('A', .edge), ('z', .edge), ('b', .boundary),
    ('B', .boundary), ('<', .boundary), ('>', .boundary), ('d', .short false), ('s', .short false),
    ('w', .short false), ('D', .short true), ('S', .short true), ('W', .short true)]

/-- A character that stands for itself after a backslash: one of ASCII that is no letter or
digit. -/
def isEscapable (c : Char) : Bool := c.toNat < 128 && !c.isAlphanum

/-- A number of hexadecimal digits; what does not count may stand between them and after them. -/
def readHex (m : Mode) : Nat → Nat → List Char → Option (Nat × List Char)
  | 0, n, cs => some (n, cs)
  | _ + 1, _, [] => none
  | count + 1, n, c :: cs =>
    (Text.hexDigit c).bind fun d => readHex m count (n * 16 + d) (m.skip cs)

def readCode (m : Mode) (count : Nat) (cs : List Char) : Option (Char × List Char) :=
  (readHex m count 0 (m.skip cs)).bind fun r =>
    if r.1.isValidChar then some (Char.ofNat r.1, r.2) else none

/-- The symbol after a backslash. A code has two, four or eight digits. -/
def readEscape (m : Mode) : List Char → Option (Symbol × List Char)
  | [] => none
  | c :: cs =>
    if c = 'x' then (readCode m 2 cs).map fun r => (.byte r.1, r.2)
    else if c = 'u' then (readCode m 4 cs).map fun r => (.char r.1, r.2)
    else if c = 'U' then (readCode m 8 cs).map fun r => (.char r.1, r.2)
    else
      match escapes.lookup c with
      | some s => some (s, cs)
      | none => if isEscapable c then some (.char c, cs) else none

theorem length_readHex {m : Mode} {count n : Nat} {cs : List Char} {r : Nat × List Char}
    (h : readHex m count n cs = some r) : r.2.length ≤ cs.length := by
  induction count generalizing n cs with
  | zero =>
    cases h
    exact Nat.le_refl _
  | succ count ih =>
    cases cs with
    | nil => cases h
    | cons c cs =>
      obtain ⟨d, _, inner⟩ := Option.bind_eq_some_iff.mp h
      exact Nat.le_succ_of_le (Nat.le_trans (ih inner) (m.length_skip cs))

theorem length_readCode {m : Mode} {count : Nat} {cs : List Char} {r : Char × List Char}
    (h : readCode m count cs = some r) : r.2.length ≤ cs.length := by
  obtain ⟨hex, digits, same⟩ := Option.bind_eq_some_iff.mp h
  split at same
  · cases same
    exact Nat.le_trans (length_readHex digits) (m.length_skip cs)
  · cases same

theorem length_readEscape {m : Mode} {cs : List Char} {r : Symbol × List Char}
    (h : readEscape m cs = some r) : r.2.length ≤ cs.length := by
  cases cs with
  | nil => cases h
  | cons c cs =>
    apply Nat.le_succ_of_le
    simp only [readEscape] at h
    split at h
    · obtain ⟨code, read, rfl⟩ := Option.map_eq_some_iff.mp h
      exact length_readCode read
    · split at h
      · obtain ⟨code, read, rfl⟩ := Option.map_eq_some_iff.mp h
        exact length_readCode read
      · split at h
        · obtain ⟨code, read, rfl⟩ := Option.map_eq_some_iff.mp h
          exact length_readCode read
        · split at h
          · cases h
            exact Nat.le_refl _
          · split at h
            · cases h
              exact Nat.le_refl _
            · cases h

end Calendrics.Pattern
