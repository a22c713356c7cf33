import Calendrics.Pattern.Item

/-! Classes of characters between brackets: items side by side, classes within classes, and
operators between two classes. Of the content of a bracket it is kept how deeply it is nested and,
for where case does not count, whether it is all characters or none. -/
namespace Calendrics.Pattern

/-- Where in a bracket the reader is. A caret counts at the start only; before the first item
hyphens stand for themselves, and so does a closing bracket that comes first. -/
inductive Place where
  | start
  | lead
  | inside
  deriving DecidableEq

inductive Operator where
  | intersection
  | difference
  | symmetricDifference
  deriving DecidableEq

namespace Operator

/-- The mark that is an operator when written twice. -/
def ofMark? (c : Char) : Option Operator :=
  if c = '&' then some intersection
  else if c = '-' then some difference
  else if c = '~' then some symmetricDifference
  else none

/-- What an operator makes of classes that hold all characters or none. -/
def apply (op : Operator) (left right : Bool) : Bool :=
  match op with
  | intersection => left && right
  | difference => left && !right
  | symmetricDifference => left ^^ right

end Operator

/-- The content of a class: how deep it is, and whether it is all characters rather than none. The
second is meant for where case does not count, where a class is nothing else. -/
structure Content where
  depth : Nat
  all : Bool
  deriving DecidableEq

/-- An open bracket: whether it is negated, the content before its last operator and that operator,
and of the items since, how deep each is and whether they are all characters. -/
structure Bracket where
  place : Place
  negated : Bool
  before : Option (Content × Operator)
  depths : List Nat
  all : Bool
  deriving DecidableEq

/-- The depth of parts side by side. A part alone stands for itself. -/
def depthOfParts : List Nat → Nat
  | [] => 0
  | [depth] => depth
  | depths => 1 + depths.foldl max 0

namespace Bracket

def empty : Bracket := ⟨.start, false, none, [], false⟩

def negate (b : Bracket) : Bracket := ⟨.lead, true, b.before, b.depths, b.all⟩

def add (b : Bracket) (place : Place) (item : Content) : Bracket :=
  ⟨place, b.negated, b.before, item.depth :: b.depths, b.all || item.all⟩

/-- One more character or range, which leaves a class that holds all characters as it is. -/
def addItem (b : Bracket) (place : Place) : Bracket := b.add place ⟨0, false⟩

/-- The content. An operator takes what stands before it as a whole. -/
def content (b : Bracket) : Content :=
  match b.before with
  | none => ⟨depthOfParts b.depths, b.all⟩
  | some (left, op) => ⟨1 + max left.depth (depthOfParts b.depths), op.apply left.all b.all⟩

def operate (b : Bracket) (op : Operator) : Bracket :=
  ⟨.inside, b.negated, some (b.content, op), [], false⟩

def toClass (b : Bracket) : Content := ⟨1 + b.content.depth, b.content.all ^^ b.negated⟩

end Bracket

/-- What one part of the content of a bracket leads to: brackets that are open, the innermost first,
or a class that is complete, with its depth. -/
inductive Inside where
  | still (brackets : List Bracket)
  | complete (depth : Nat)

namespace Bracket

/-- A bracket closes and is an item of the one around it. -/
def close (b : Bracket) : List Bracket → Inside
  | [] => .complete b.toClass.depth
  | outer :: around => .still (outer.add .inside b.toClass :: around)

def operatorAt (c : Char) (cs : List Char) : Option Operator :=
  if cs.head? = some c then Operator.ofMark? c else none

/-- The next part of the content of a bracket, whose first character is given apart, and the text
after it. Classes other than in the Unicode mode are not negated. -/
def step (m : Mode) (b : Bracket) (around : List Bracket) (c : Char) (cs : List Char) :
    Option (Inside × List Char) :=
  if b.place = .start ∧ c = '^' then
    if m.unicode then some (.still (b.negate :: around), cs) else none
  else if b.place ≠ .inside ∧ c = '-' then
    if m.AllowsCode c then some (.still (b.addItem .lead :: around), cs) else none
  else if b.place ≠ .inside ∧ b.depths = [] ∧ c = ']' then
    if m.AllowsCode c then some (.still (b.addItem .inside :: around), cs) else none
  else if c = ']' then some (b.close around, cs)
  else if c = '[' then
    match readClassName cs with
    | some (negated, rest) =>
      if m.AllowsName negated then some (.still (b.addItem .inside :: around), rest) else none
    | none => some (.still (empty :: b :: around), cs)
  else
    match operatorAt c cs with
    | some op => some (.still (b.operate op :: around), cs.drop 1)
    | none =>
      (readItem m b.all (c :: cs)).map fun rest => (.still (b.addItem .inside :: around), rest)

end Bracket

theorem Bracket.length_step {m : Mode} {b : Bracket} {around : List Bracket} {c : Char}
    {cs : List Char} {r : Inside × List Char} (h : b.step m around c cs = some r) :
    r.2.length ≤ cs.length := by
  rw [step] at h
  split at h
  · split at h
    · cases h
      exact Nat.le_refl _
    · cases h
  · split at h
    · split at h
      · cases h
        exact Nat.le_refl _
      · cases h
    · split at h
      · split at h
        · cases h
          exact Nat.le_refl _
        · cases h
      · split at h
        · cases h
          exact Nat.le_refl _
        · split at h
          · split at h
            · rename_i named
              split at h
              · cases h
                exact length_readClassName named
              · cases h
            · cases h
              exact Nat.le_refl _
          · split at h
            · cases h
              exact (List.drop_sublist 1 cs).length_le
            · obtain ⟨rest, item, rfl⟩ := Option.map_eq_some_iff.mp h
              exact length_readItem item

end Calendrics.Pattern
