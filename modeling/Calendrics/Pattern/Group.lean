import Calendrics.Pattern.Bracket
import Calendrics.Text.Alphanumeric

/-! Groups of a pattern: alternatives, each a row of parts, some of them repeated. Of what has been
read of a group it is kept how deep it is. The head of a group may name it or set flags; flags
without a group hold for the rest of the group around them. -/
namespace Calendrics.Pattern

/-- A part of a row: how deep it is, and whether it may be repeated. -/
structure Part where
  depth : Nat
  repeatable : Bool
  deriving DecidableEq

/-- A group as far as it has been read: how deep its earlier alternatives are, and the parts of the
present one, the latest first. -/
structure Body where
  earlier : List Nat
  parts : List Part
  deriving DecidableEq

namespace Body

def empty : Body := ⟨[], []⟩

def add (b : Body) (p : Part) : Body := ⟨b.earlier, p :: b.parts⟩

def alternatives (b : Body) : List Nat := depthOfParts (b.parts.map Part.depth) :: b.earlier

def depth (b : Body) : Nat := depthOfParts b.alternatives

def alternate (b : Body) : Body := ⟨b.alternatives, []⟩

/-- The latest part is repeated, if there is one that may be. -/
def repeatLast (b : Body) : Option Body :=
  match b.parts with
  | [] => none
  | p :: parts => if p.repeatable then some ⟨b.earlier, ⟨p.depth + 1, true⟩ :: parts⟩ else none

end Body

inductive Head where
  | plain
  | named (name : List Char)
  | flagged (flags : List Char)
  | flagsOnly (flags : List Char)

/-- A name: a letter or low line, and then these, numbers, dots and brackets. -/
def IsName (name : List Char) : Prop :=
  (name.head?.any fun c => c = '_' ∨ Text.isAlphabetic c) ∧
    name.all fun c => c ∈ ['_', '.', '[', ']'] ∨ Text.isAlphanumeric c

instance (name : List Char) : Decidable (IsName name) := inferInstanceAs (Decidable (_ ∧ _))

def readName (cs : List Char) : Option (Head × List Char) :=
  let name := cs.takeWhile (· ≠ '>')
  match cs.drop name.length with
  | _ :: rest => if IsName name then some (.named name, rest) else none
  | [] => none

def readFlags (cs : List Char) : Option (Head × List Char) :=
  let flags := cs.takeWhile fun c => c ≠ ':' && c ≠ ')'
  match cs.drop flags.length with
  | mark :: rest =>
    if AreFlags flags then
      if mark = ':' then some (.flagged flags, rest)
      else if flags = [] then none
      else some (.flagsOnly flags, rest)
    else none
  | [] => none

def readHead : List Char → Option (Head × List Char)
  | '?' :: 'P' :: '<' :: cs => readName cs
  | '?' :: '<' :: cs => readName cs
  | '?' :: cs => readFlags cs
  | cs => some (.plain, cs)

theorem length_readName {cs : List Char} {r : Head × List Char} (h : readName cs = some r) :
    r.2.length ≤ cs.length := by
  simp only [readName] at h
  split at h
  · rename_i rest closing
    have whole := congrArg List.length closing
    simp only [List.length_drop, List.length_cons] at whole
    have shorter : rest.length ≤ cs.length := by omega
    split at h
    · cases h
      exact shorter
    · cases h
  · cases h

theorem length_readFlags {cs : List Char} {r : Head × List Char} (h : readFlags cs = some r) :
    r.2.length ≤ cs.length := by
  simp only [readFlags] at h
  split at h
  · rename_i rest closing
    have whole := congrArg List.length closing
    simp only [List.length_drop, List.length_cons] at whole
    have shorter : rest.length ≤ cs.length := by omega
    split at h
    · split at h
      · cases h
        exact shorter
      · split at h
        · cases h
        · cases h
          exact shorter
    · cases h
  · cases h

theorem length_readHead {cs : List Char} {r : Head × List Char} (h : readHead cs = some r) :
    r.2.length ≤ cs.length := by
  rw [readHead.eq_def] at h
  split at h
  · have name := length_readName h
    simp only [List.length_cons]
    omega
  · have name := length_readName h
    simp only [List.length_cons]
    omega
  · exact Nat.le_succ_of_le (length_readFlags h)
  · cases h
    exact Nat.le_refl _

end Calendrics.Pattern
