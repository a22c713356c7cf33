import Calendrics.Pattern.Group

/-! Which texts are patterns. A text is read from left to right, once; it is a pattern if nothing in
it is refused, everything that opens closes, no two groups have one name, and nothing is nested too
deeply. A pattern stands in a text where a brace closes what is around it, so a count between
braces is never complete, and an opening brace outside brackets is refused. -/
namespace Calendrics

namespace Pattern

/-- How far a pattern has been read: the mode, the names given, the group that is open, the groups
and modes around it, and the brackets that are open. -/
structure Reading where
  mode : Mode
  names : List (List Char)
  body : Body
  around : List (Body × Mode)
  brackets : List Bracket

namespace Reading

def start : Reading := ⟨.start, [], .empty, [], []⟩

def add (r : Reading) (p : Part) : Reading :=
  ⟨r.mode, r.names, r.body.add p, r.around, r.brackets⟩

def addSymbol (r : Reading) (s : Symbol) : Option Reading :=
  if s.Allowed r.mode then some (r.add ⟨0, true⟩) else none

def enter (r : Reading) (mode : Mode) (names : List (List Char)) : Reading :=
  ⟨mode, names, .empty, (r.body, r.mode) :: r.around, r.brackets⟩

def addHead (r : Reading) : Head → Option Reading
  | .plain => some (r.enter r.mode r.names)
  | .named name => if r.names.contains name then none else some (r.enter r.mode (name :: r.names))
  | .flagged flags => some (r.enter (r.mode.switch flags) r.names)
  | .flagsOnly flags =>
    some ⟨r.mode.switch flags, r.names, r.body.add ⟨0, false⟩, r.around, r.brackets⟩

/-- The open group closes and is a part of the one around it. -/
def leave (r : Reading) : Option Reading :=
  match r.around with
  | [] => none
  | (outer, mode) :: around =>
    some ⟨mode, r.names, outer.add ⟨1 + r.body.depth, true⟩, around, r.brackets⟩

def withBrackets (r : Reading) (brackets : List Bracket) : Reading :=
  ⟨r.mode, r.names, r.body, r.around, brackets⟩

def addInside (r : Reading) : Inside → Reading
  | .still brackets => r.withBrackets brackets
  | .complete depth => (r.withBrackets []).add ⟨depth, true⟩

def repeaters : List Char := ['?', '*', '+']

/-- The next part of a pattern outside brackets, whose first character is given apart, and the text
after it. -/
def stepOutside (r : Reading) (c : Char) (cs : List Char) : Option (Reading × List Char) :=
  if c = '(' then
    (readHead (r.mode.skip cs)).bind fun head => (r.addHead head.1).map (·, head.2)
  else if c = ')' then r.leave.map (·, cs)
  else if c = '|' then some (⟨r.mode, r.names, r.body.alternate, r.around, r.brackets⟩, cs)
  else if c = '[' then some (r.withBrackets [.empty], cs)
  else if c ∈ repeaters then
    r.body.repeatLast.map fun body =>
      (⟨r.mode, r.names, body, r.around, r.brackets⟩, if cs.head? = some '?' then cs.drop 1 else cs)
  else if c = '\x7b' then none
  else if c = '\\' then
    (readEscape r.mode cs).bind fun symbol => (r.addSymbol symbol.1).map (·, symbol.2)
  else if c = '.' then (r.addSymbol .any).map (·, cs)
  else if c = '^' ∨ c = '$' then (r.addSymbol .edge).map (·, cs)
  else (r.addSymbol (.char c)).map (·, cs)

def step (r : Reading) (c : Char) (cs : List Char) : Option (Reading × List Char) :=
  match r.brackets with
  | [] => r.stepOutside c cs
  | b :: around => (b.step r.mode around c cs).map fun inside => (r.addInside inside.1, inside.2)

theorem length_stepOutside {r : Reading} {c : Char} {cs : List Char} {next : Reading × List Char}
    (h : r.stepOutside c cs = some next) : next.2.length ≤ cs.length := by
  rw [stepOutside] at h
  split at h
  · obtain ⟨head, read, h⟩ := Option.bind_eq_some_iff.mp h
    obtain ⟨after, _, rfl⟩ := Option.map_eq_some_iff.mp h
    exact Nat.le_trans (length_readHead read) (r.mode.length_skip cs)
  · split at h
    · obtain ⟨after, _, rfl⟩ := Option.map_eq_some_iff.mp h
      exact Nat.le_refl _
    · split at h
      · cases h
        exact Nat.le_refl _
      · split at h
        · cases h
          exact Nat.le_refl _
        · split at h
          · obtain ⟨body, _, rfl⟩ := Option.map_eq_some_iff.mp h
            simp only
            split
            · exact (List.drop_sublist 1 cs).length_le
            · exact Nat.le_refl _
          · split at h
            · cases h
            · split at h
              · obtain ⟨symbol, read, h⟩ := Option.bind_eq_some_iff.mp h
                obtain ⟨after, _, rfl⟩ := Option.map_eq_some_iff.mp h
                exact length_readEscape read
              · split at h
                · obtain ⟨after, _, rfl⟩ := Option.map_eq_some_iff.mp h
                  exact Nat.le_refl _
                · split at h
                  · obtain ⟨after, _, rfl⟩ := Option.map_eq_some_iff.mp h
                    exact Nat.le_refl _
                  · obtain ⟨after, _, rfl⟩ := Option.map_eq_some_iff.mp h
                    exact Nat.le_refl _

theorem length_step {r : Reading} {c : Char} {cs : List Char} {next : Reading × List Char}
    (h : r.step c cs = some next) : next.2.length ≤ cs.length := by
  rw [step.eq_def] at h
  split at h
  · exact length_stepOutside h
  · obtain ⟨inside, read, rfl⟩ := Option.map_eq_some_iff.mp h
    exact Bracket.length_step read

def readAll (r : Reading) (cs : List Char) : Option Reading :=
  match _skipped : r.mode.skip cs with
  | [] => some r
  | c :: rest =>
    match _stepped : r.step c rest with
    | none => none
    | some next => readAll next.1 next.2
termination_by cs.length
decreasing_by
  have shorter := r.mode.length_skip cs
  have no_longer := length_step _stepped
  rw [_skipped, List.length_cons] at shorter
  omega

end Reading

/-- How deeply parts may be nested. -/
def greatestDepth : Nat := 250

def Reading.IsWhole (r : Reading) : Prop :=
  r.around = [] ∧ r.brackets = [] ∧ r.body.depth ≤ greatestDepth

instance (r : Reading) : Decidable r.IsWhole := inferInstanceAs (Decidable (_ ∧ _ ∧ _))

end Pattern

def IsPattern (cs : List Char) : Prop :=
  ∃ r ∈ Pattern.Reading.start.readAll cs, r.IsWhole

instance (cs : List Char) : Decidable (IsPattern cs) :=
  inferInstanceAs (Decidable (∃ r ∈ Pattern.Reading.start.readAll cs, r.IsWhole))

/- Groups, classes, alternatives and repetitions make a pattern. -/
example : IsPattern "(?P<n>a)[^b-d]*?|e".toList := by decide +kernel

/- Nothing stands before the mark that repeats. -/
example : ¬ IsPattern "*a".toList := by decide +kernel

/- A range does not run backwards. -/
example : ¬ IsPattern "[z-a]".toList := by decide +kernel

/- Word characters of every script are not known, those of ASCII are. -/
example : ¬ IsPattern "\\w".toList ∧ IsPattern "(?-u)\\w".toList := by decide +kernel

end Calendrics
