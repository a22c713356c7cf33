import Calendrics.Text.Blank

/-! How a pattern is read: whether case counts, whether it speaks of characters or of bytes, and
whether blanks and comments between its parts count. Flags in the pattern change the mode up to the
end of the group that they stand in. -/
namespace Calendrics.Pattern

/-- How the rest of a group is read. -/
structure Mode where
  caseless : Bool
  unicode : Bool
  spaced : Bool
  deriving DecidableEq

def Mode.start : Mode := ⟨false, true, false⟩

/-- The letters that are flags. Only three of them bear on whether a text is a pattern. -/
def flagLetters : List Char := ['i', 'm', 's', 'U', 'u', 'R', 'x']

/-- Flags: letters and at most one hyphen, each once, the hyphen not at the end. -/
def AreFlags (cs : List Char) : Prop :=
  cs.Nodup ∧ cs.getLast? ≠ some '-' ∧ cs.all fun c => c = '-' ∨ c ∈ flagLetters

instance (cs : List Char) : Decidable (AreFlags cs) := inferInstanceAs (Decidable (_ ∧ _ ∧ _))

/-- What flags make of a setting: a letter before the hyphen turns it on, one after it off. -/
def switched (flags : List Char) (letter : Char) (setting : Bool) : Bool :=
  if letter ∈ flags.takeWhile (· ≠ '-') then true
  else if letter ∈ flags then false
  else setting

namespace Mode

def switch (m : Mode) (flags : List Char) : Mode :=
  ⟨switched flags 'i' m.caseless, switched flags 'u' m.unicode, switched flags 'x' m.spaced⟩

end Mode

/-- A text less the blanks and comments at its start. A comment ends with its line. -/
def dropSpace (inComment : Bool) : List Char → List Char
  | [] => []
  | c :: cs =>
    if inComment then dropSpace (c ≠ '\n') cs
    else if Text.isBlank c then dropSpace false cs
    else if c = '#' then dropSpace true cs
    else c :: cs

/-- A text less what does not count at its start. -/
def Mode.skip (m : Mode) (cs : List Char) : List Char :=
  if m.spaced then dropSpace false cs else cs

theorem length_dropSpace (inComment : Bool) (cs : List Char) :
    (dropSpace inComment cs).length ≤ cs.length := by
  induction cs generalizing inComment with
  | nil => exact Nat.le_refl _
  | cons c cs ih =>
    rw [dropSpace]
    split
    · exact Nat.le_succ_of_le (ih _)
    · split
      · exact Nat.le_succ_of_le (ih _)
      · split
        · exact Nat.le_succ_of_le (ih _)
        · exact Nat.le_refl _

theorem Mode.length_skip (m : Mode) (cs : List Char) : (m.skip cs).length ≤ cs.length := by
  rw [skip]
  split
  · exact length_dropSpace false cs
  · exact Nat.le_refl _

end Calendrics.Pattern
