import Mathlib.Algebra.Ring.Nat
import Calendrics.Text.Decimal

/-! Runs of decimal digits and their values. A digit is worth more than all that can follow it, so
runs of one length have different values. A numeral is canonical at a width when it is no shorter,
and opens with a zero only to fill the width; there is one such numeral of each value. Main
statements: `eq_of_value_eq`, `Numeral.canonical_iff`. -/
namespace Calendrics

namespace Decimal

variable {cs ds : List Char} {width n : Nat}

theorem isDigit_bounds {c : Char} (h : c.isDigit) : 48 ≤ c.toNat ∧ c.toNat ≤ 57 :=
  Char.isDigit_iff_toNat.mp h

theorem isDigit_of_mem_run (run : IsRun cs) {c : Char} (h : c ∈ cs) : c.isDigit :=
  List.all_eq_true.mp run.2 c h

theorem isRun_digits (n : Nat) : IsRun (digits n) :=
  ⟨digits_ne_nil n, List.all_eq_true.mpr fun _ => isDigit_of_mem_digits⟩

theorem value_cons (c : Char) (cs : List Char) :
    value (c :: cs) = (c.toNat - 48) * 10 ^ cs.length + value cs := by
  rw [value, Nat.ofDigitChars_cons, Nat.ofDigitChars_eq_ofDigitChars_zero, value]
  simp [Nat.mul_comm]

theorem value_lt (digits : ∀ c ∈ cs, c.isDigit) : value cs < 10 ^ cs.length := by
  induction cs with
  | nil => decide
  | cons c cs ih =>
    have rest := ih fun d hd => digits d (List.mem_cons_of_mem c hd)
    have first := isDigit_bounds (digits c List.mem_cons_self)
    have most : (c.toNat - 48) * 10 ^ cs.length ≤ 9 * 10 ^ cs.length :=
      Nat.mul_le_mul_right _ (by omega)
    rw [value_cons, List.length_cons, Nat.pow_succ]
    omega

theorem le_value_cons {c : Char} (isDigit : c.isDigit) (h : c ≠ '0') :
    10 ^ cs.length ≤ value (c :: cs) := by
  have first := isDigit_bounds isDigit
  have positive : c.toNat ≠ 48 := fun zero => h (Char.toNat_inj.mp zero)
  have least : 1 * 10 ^ cs.length ≤ (c.toNat - 48) * 10 ^ cs.length :=
    Nat.mul_le_mul_right _ (by omega)
  rw [value_cons]
  omega

theorem first_digit (c : Char) (digits : ∀ d ∈ cs, d.isDigit) :
    value (c :: cs) / 10 ^ cs.length = c.toNat - 48 := by
  rw [value_cons, Nat.mul_comm, Nat.mul_add_div (Nat.pow_pos (by decide)),
    Nat.div_eq_of_lt (value_lt digits), Nat.add_zero]

theorem eq_of_value_eq (digits : ∀ c ∈ cs, c.isDigit) (digits' : ∀ d ∈ ds, d.isDigit)
    (length : cs.length = ds.length) (same : value cs = value ds) : cs = ds := by
  induction cs generalizing ds with
  | nil => exact (List.length_eq_zero_iff.mp length.symm).symm
  | cons c cs ih =>
    cases ds with
    | nil => cases length
    | cons d ds =>
      have rest : ∀ e ∈ cs, e.isDigit := fun e he => digits e (List.mem_cons_of_mem c he)
      have rest' : ∀ e ∈ ds, e.isDigit := fun e he => digits' e (List.mem_cons_of_mem d he)
      have length_rest : cs.length = ds.length := Nat.succ.inj length
      have first : c.toNat - 48 = d.toNat - 48 := by
        rw [← first_digit c rest, ← first_digit d rest', length_rest, same]
      have bounds := isDigit_bounds (digits c List.mem_cons_self)
      have bounds' := isDigit_bounds (digits' d List.mem_cons_self)
      have equal : c = d := Char.toNat_inj.mp (by omega)
      rw [value_cons, value_cons, first, length_rest] at same
      rw [equal, ih rest rest' length_rest (Nat.add_left_cancel same)]

theorem length_digits_le_iff (positive : 0 < width) : (digits n).length ≤ width ↔ n < 10 ^ width :=
  Nat.length_toDigits_le_iff (by decide) positive

theorem length_padded (width n : Nat) : (padded width n).length = max width (digits n).length := by
  rw [padded, List.length_leftpad]

theorem length_padded_of_lt (positive : 0 < width) (h : n < 10 ^ width) :
    (padded width n).length = width := by
  have short := (length_digits_le_iff positive).mpr h
  rw [length_padded]
  omega

theorem length_digits_value {c : Char} (run : ∀ d ∈ c :: cs, d.isDigit) (h : c ≠ '0')
    (longer : 0 < cs.length) : (digits (value (c :: cs))).length = (c :: cs).length := by
  have within := (length_digits_le_iff (Nat.succ_pos cs.length)).mpr (value_lt run)
  have least : 10 ^ cs.length ≤ value (c :: cs) := le_value_cons (run c List.mem_cons_self) h
  have beyond : ¬ (digits (value (c :: cs))).length ≤ cs.length :=
    mt (length_digits_le_iff longer).mp (Nat.not_lt.mpr least)
  rw [List.length_cons]
  omega

theorem head_digits_ne_zero (h : 1 < (digits n).length) : (digits n).head? ≠ some '0' := by
  intro zero
  obtain ⟨rest, opens⟩ := List.head?_eq_some_iff.mp zero
  have value_rest : value rest = n := by
    rw [← value_digits n, opens, value_cons]
    simp
  have run : ∀ d ∈ rest, d.isDigit :=
    fun d hd => isDigit_of_mem_digits (opens ▸ List.mem_cons_of_mem '0' hd)
  rw [opens, List.length_cons] at h
  have short : (digits n).length ≤ rest.length :=
    (length_digits_le_iff (by omega)).mpr (value_rest ▸ value_lt run)
  rw [opens, List.length_cons] at short
  omega

@[ext]
structure Numeral where
  digits : List Char
  isRun : IsRun digits

namespace Numeral

def value (n : Numeral) : Nat := Decimal.value n.digits

theorem isDigit (n : Numeral) : ∀ c ∈ n.digits, c.isDigit := fun _ => isDigit_of_mem_run n.isRun

theorem read_digits {limit : Nat} {n : Numeral} (h : n.value ≤ limit) :
    read limit n.digits = some n.value :=
  read_eq_some_iff.mpr ⟨n.isRun, rfl, h⟩

/-- A numeral no shorter than the width, with a leading zero only to fill it. -/
structure Canonical (width : Nat) (n : Numeral) : Prop where
  width_le : width ≤ n.digits.length
  no_leading_zero : width < n.digits.length → n.digits.head? ≠ some '0'

variable {n : Numeral}

theorem Canonical.length_eq (h : n.Canonical width) (positive : 0 < width) :
    n.digits.length = (padded width n.value).length := by
  by_cases filled : n.digits.length = width
  · have small : n.value < 10 ^ width := filled ▸ value_lt n.isDigit
    rw [length_padded_of_lt positive small, filled]
  · have longer : width < n.digits.length := Nat.lt_of_le_of_ne h.width_le (Ne.symm filled)
    have first := h.no_leading_zero longer
    obtain ⟨c, cs, opens⟩ := List.exists_cons_of_ne_nil n.isRun.1
    have run := n.isDigit
    rw [opens] at longer first run
    have no_zero : c ≠ '0' := fun zero => first (congrArg some zero)
    have some_more : 0 < cs.length := by
      rw [List.length_cons] at longer
      omega
    have exact_length := length_digits_value run no_zero some_more
    rw [length_padded, Numeral.value, opens, exact_length]
    omega

theorem canonical_of_eq (positive : 0 < width) {value : Nat} (h : n.digits = padded width value) :
    n.Canonical width := by
  constructor
  · rw [h, length_padded]
    exact Nat.le_max_left _ _
  · intro longer
    rw [h, length_padded] at longer
    have unfilled : padded width value = Decimal.digits value := by
      rw [padded, List.leftpad, Nat.sub_eq_zero_of_le (by omega)]
      rfl
    rw [h, unfilled]
    exact head_digits_ne_zero (by omega)

/-- The canonical numeral of a value is the value's digits, filled up with zeros. -/
theorem canonical_iff (positive : 0 < width) :
    n.Canonical width ↔ n.digits = padded width n.value := by
  constructor
  · intro canonical
    exact eq_of_value_eq n.isDigit (fun _ => isDigit_of_mem_padded) (canonical.length_eq positive)
      (value_padded _ _).symm
  · exact canonical_of_eq positive

end Numeral

end Decimal

end Calendrics
