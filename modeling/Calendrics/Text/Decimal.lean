/-! Decimal text: digits, zero padding, and reading back. A run of digits may have any number of
leading zeros; its value is what it is read as. -/
namespace Calendrics.Decimal

def digits (n : Nat) : List Char := Nat.toDigits 10 n

def padded (width n : Nat) : List Char := (digits n).leftpad width '0'

def ofInt (n : Int) : List Char :=
  if n < 0 then '-' :: digits n.natAbs else digits n.natAbs

def text (n : Int) : String := String.ofList (ofInt n)

/-- A run of ASCII digits, at least one. -/
def IsRun (cs : List Char) : Prop := cs ≠ [] ∧ cs.all Char.isDigit

instance (cs : List Char) : Decidable (IsRun cs) :=
  inferInstanceAs (Decidable (cs ≠ [] ∧ cs.all Char.isDigit))

def value (cs : List Char) : Nat := Nat.ofDigitChars 10 cs 0

/-- Reads a run of digits whose value is at most the limit. -/
def read (limit : Nat) (cs : List Char) : Option Nat :=
  if IsRun cs ∧ value cs ≤ limit then some (value cs) else none

theorem value_digits (n : Nat) : value (digits n) = n :=
  Nat.ofDigitChars_toDigits (by decide) (by decide)

theorem digits_ne_nil (n : Nat) : digits n ≠ [] := Nat.toDigits_ne_nil

theorem isDigit_of_mem_digits {n : Nat} {c : Char} (h : c ∈ digits n) : c.isDigit :=
  Nat.isDigit_of_mem_toDigits (by decide) (by decide) h

theorem isDigit_of_mem_padded {width n : Nat} {c : Char} (h : c ∈ padded width n) : c.isDigit := by
  rw [padded, List.leftpad, List.mem_append] at h
  cases h with
  | inl zero =>
    rw [List.eq_of_mem_replicate zero]
    decide
  | inr digit => exact isDigit_of_mem_digits digit

/-- Leading zeros do not count. -/
theorem value_zeros_append (k : Nat) (cs : List Char) :
    value (List.replicate k '0' ++ cs) = value cs := by
  induction k with
  | zero => rfl
  | succ k ih =>
    rw [List.replicate_succ, List.cons_append]
    exact ih

theorem value_padded (width n : Nat) : value (padded width n) = n := by
  rw [padded, List.leftpad, value_zeros_append, value_digits]

theorem isRun_padded (width n : Nat) : IsRun (padded width n) := by
  constructor
  · intro h
    rw [padded, List.leftpad, List.append_eq_nil_iff] at h
    exact digits_ne_nil n h.2
  · exact List.all_eq_true.mpr fun _ hc => isDigit_of_mem_padded hc

theorem read_eq_some_iff {limit v : Nat} {cs : List Char} :
    read limit cs = some v ↔ IsRun cs ∧ value cs = v ∧ v ≤ limit := by
  by_cases h : IsRun cs ∧ value cs ≤ limit
  · rw [read, if_pos h, Option.some.injEq]
    constructor
    · intro hv
      exact ⟨h.1, hv, hv ▸ h.2⟩
    · exact fun hv => hv.2.1
  · rw [read, if_neg h]
    constructor
    · intro hv
      cases hv
    · intro hv
      exact absurd ⟨hv.1, hv.2.1 ▸ hv.2.2⟩ h

end Calendrics.Decimal
