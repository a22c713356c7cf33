import Calendrics.Pattern.Symbol

/-! What may stand between brackets: characters, short and named classes, ranges. Where case does
not count, a class holds no character or all of them, because the cases of others are not known;
only the range of all characters may stand in a class, and only if the class holds all of them
before. -/
namespace Calendrics.Pattern

def classNames : List (List Char) :=
  ["alnum", "alpha", "ascii", "blank", "cntrl", "digit", "graph", "lower", "print", "punct",
    "space", "upper", "word", "xdigit"].map String.toList

def afterClassName (cs : List Char) : Option (List Char) :=
  let name := cs.takeWhile (· ≠ ':')
  match cs.drop name.length with
  | ':' :: ']' :: rest => if name ∈ classNames then some rest else none
  | _ => none

/-- A named class after its opening bracket: whether it is negated, and the text after it. -/
def readClassName : List Char → Option (Bool × List Char)
  | ':' :: '^' :: cs => (afterClassName cs).map (true, ·)
  | ':' :: cs => (afterClassName cs).map (false, ·)
  | _ => none

/-- The character after a hyphen, what does not count aside; of a comment only the mark that opens
it is passed over. -/
def Mode.next (m : Mode) (cs : List Char) : Option Char :=
  if m.spaced then
    match cs.dropWhile Text.isBlank with
    | '#' :: rest => (rest.dropWhile Text.isBlank).head?
    | rest => rest.head?
  else cs.head?

/-- A symbol between brackets, where only the backslash has a meaning. -/
def readMember (m : Mode) : List Char → Option (Symbol × List Char)
  | [] => none
  | c :: cs => if c = '\\' then readEscape m cs else some (.char c, cs)

/-- The text after the hyphen of a range: there is a hyphen, and neither a closing bracket nor
another hyphen follows it. -/
def afterRangeMark (m : Mode) : List Char → Option (List Char)
  | '-' :: cs => if m.next cs = some ']' ∨ m.next cs = some '-' then none else some (m.skip cs)
  | _ => none

def IsRange (low high : Symbol) : Prop :=
  low.char?.any fun a => high.char?.any fun b => a.toNat ≤ b.toNat

instance (low high : Symbol) : Decidable (IsRange low high) :=
  inferInstanceAs (Decidable (_ = true))

def IsWholeRange (low high : Symbol) : Prop :=
  low.char? = some '\x00' ∧ high.char? = some (Char.ofNat 0x10ffff)

instance (low high : Symbol) : Decidable (IsWholeRange low high) :=
  inferInstanceAs (Decidable (_ ∧ _))

/-- Whether a range may stand in a class that holds all characters before or does not. -/
def Mode.AllowsRange (m : Mode) (all : Bool) (low high : Symbol) : Prop :=
  IsRange low high ∧
    ((low.AllowedInBrackets m ∧ high.AllowedInBrackets m) ∨
      (m.unicode ∧ all ∧ IsWholeRange low high))

instance (m : Mode) (all : Bool) (low high : Symbol) : Decidable (m.AllowsRange all low high) :=
  inferInstanceAs (Decidable (_ ∧ _))

def readItem (m : Mode) (all : Bool) (cs : List Char) : Option (List Char) :=
  (readMember m cs).bind fun low =>
    match afterRangeMark m (m.skip low.2) with
    | none => if low.1.AllowedInBrackets m then some low.2 else none
    | some cs =>
      (readMember m cs).bind fun high =>
        if m.AllowsRange all low.1 high.1 then some high.2 else none

def Mode.AllowsName (m : Mode) (negated : Bool) : Prop :=
  if m.unicode then ¬ m.caseless else ¬ negated

instance (m : Mode) (negated : Bool) : Decidable (m.AllowsName negated) :=
  inferInstanceAs (Decidable (if m.unicode then ¬ m.caseless else ¬ negated))

theorem length_afterClassName {cs rest : List Char} (h : afterClassName cs = some rest) :
    rest.length ≤ cs.length := by
  simp only [afterClassName] at h
  split at h
  · rename_i closing
    have whole := congrArg List.length closing
    split at h
    · cases h
      simp only [List.length_drop, List.length_cons] at whole
      omega
    · cases h
  · cases h

theorem length_readClassName {cs : List Char} {r : Bool × List Char}
    (h : readClassName cs = some r) : r.2.length ≤ cs.length := by
  rw [readClassName.eq_def] at h
  split at h
  · obtain ⟨rest, name, rfl⟩ := Option.map_eq_some_iff.mp h
    exact Nat.le_succ_of_le (Nat.le_succ_of_le (length_afterClassName name))
  · obtain ⟨rest, name, rfl⟩ := Option.map_eq_some_iff.mp h
    exact Nat.le_succ_of_le (length_afterClassName name)
  · cases h

theorem length_readMember {m : Mode} {c : Char} {cs : List Char} {r : Symbol × List Char}
    (h : readMember m (c :: cs) = some r) : r.2.length ≤ cs.length := by
  rw [readMember] at h
  split at h
  · exact length_readEscape h
  · cases h
    exact Nat.le_refl _

theorem length_afterRangeMark {m : Mode} {cs rest : List Char}
    (h : afterRangeMark m cs = some rest) : rest.length < cs.length := by
  rw [afterRangeMark.eq_def] at h
  split at h
  · split at h
    · cases h
    · cases h
      exact Nat.lt_succ_of_le (m.length_skip _)
  · cases h

theorem length_readItem {m : Mode} {all : Bool} {c : Char} {cs rest : List Char}
    (h : readItem m all (c :: cs) = some rest) : rest.length ≤ cs.length := by
  obtain ⟨low, first, h⟩ := Option.bind_eq_some_iff.mp h
  have of_first := length_readMember first
  split at h
  · split at h
    · cases h
      exact of_first
    · cases h
  · rename_i after mark
    have of_mark := length_afterRangeMark mark
    have skipped := m.length_skip low.2
    obtain ⟨high, second, h⟩ := Option.bind_eq_some_iff.mp h
    split at h
    · cases h
      cases after with
      | nil => cases second
      | cons d ds =>
        have of_second := length_readMember second
        simp only [List.length_cons] at of_mark
        omega
    · cases h

end Calendrics.Pattern
