import Calendrics.Text.Decimal

/-! Numbers as text: digits with a point among them or around them, an exponent, a sign, and the
names of what is no finite number. -/
namespace Calendrics.Decimal

def dropSign : List Char → List Char
  | [] => []
  | c :: cs => if c = '+' ∨ c = '-' then cs else c :: cs

/-- An exponent, or none. -/
def IsExponent : List Char → Prop
  | [] => True
  | c :: cs => (c = 'e' ∨ c = 'E') ∧ IsRun (dropSign cs)

instance (cs : List Char) : Decidable (IsExponent cs) :=
  match cs with
  | [] => isTrue trivial
  | c :: cs => inferInstanceAs (Decidable ((c = 'e' ∨ c = 'E') ∧ IsRun (dropSign cs)))

/-- Digits with a point among them or around them, and an exponent. -/
def IsUnsigned (cs : List Char) : Prop :=
  match cs.dropWhile Char.isDigit with
  | '.' :: rest =>
    (cs.takeWhile Char.isDigit ≠ [] ∨ rest.takeWhile Char.isDigit ≠ []) ∧
      IsExponent (rest.dropWhile Char.isDigit)
  | rest => cs.takeWhile Char.isDigit ≠ [] ∧ IsExponent rest

instance (cs : List Char) : Decidable (IsUnsigned cs) := by
  unfold IsUnsigned
  split <;> infer_instance

/-- The names of what is no finite number, in lower case. -/
def nonfinite : List (List Char) := ["inf", "infinity", "nan"].map String.toList

def IsNumber (cs : List Char) : Prop :=
  IsUnsigned (dropSign cs) ∨ (dropSign cs).map Char.toLower ∈ nonfinite

instance (cs : List Char) : Decidable (IsNumber cs) := inferInstanceAs (Decidable (_ ∨ _))

end Calendrics.Decimal
