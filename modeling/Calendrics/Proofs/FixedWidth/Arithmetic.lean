/-! Arithmetic in integer types of a fixed width. A step whose result is no number of its type
fails, as does a division by zero; a cast never fails, but keeps only what the new type can hold. A
computation yields a number if none of its steps failed and no cast changed the number that it would
be without bounds. -/
namespace Calendrics

/-- An integer type: 32 or 64 bits with a sign, 8 or 16 bits without. -/
inductive Width where
  | int32
  | int64
  | nat8
  | nat16
  deriving DecidableEq

namespace Width

def least : Width → Int
  | int32 => -2147483648
  | int64 => -9223372036854775808
  | nat8 => 0
  | nat16 => 0

def greatest : Width → Int
  | int32 => 2147483647
  | int64 => 9223372036854775807
  | nat8 => 255
  | nat16 => 65535

def Holds (w : Width) (n : Int) : Prop := w.least ≤ n ∧ n ≤ w.greatest

instance (w : Width) (n : Int) : Decidable (w.Holds n) :=
  inferInstanceAs (Decidable (w.least ≤ n ∧ n ≤ w.greatest))

theorem holds_int32 {n : Int} : int32.Holds n ↔ -2147483648 ≤ n ∧ n ≤ 2147483647 := Iff.rfl

theorem holds_int64 {n : Int} :
    int64.Holds n ↔ -9223372036854775808 ≤ n ∧ n ≤ 9223372036854775807 := Iff.rfl

theorem holds_nat8 {n : Int} : nat8.Holds n ↔ 0 ≤ n ∧ n ≤ 255 := Iff.rfl

theorem holds_nat16 {n : Int} : nat16.Holds n ↔ 0 ≤ n ∧ n ≤ 65535 := Iff.rfl

/-- What a cast makes of a number: the number of the type with the same last bits. -/
def wrap (w : Width) (n : Int) : Int := w.least + (n - w.least) % (w.greatest - w.least + 1)

theorem least_le_greatest (w : Width) : w.least ≤ w.greatest := by
  cases w <;> decide

theorem holds_wrap (w : Width) (n : Int) : w.Holds (w.wrap n) := by
  have size := w.least_le_greatest
  have low := Int.emod_nonneg (n - w.least) (b := w.greatest - w.least + 1) (by omega)
  have high := Int.emod_lt_of_pos (n - w.least) (b := w.greatest - w.least + 1) (by omega)
  rw [Holds, wrap]
  omega

theorem wrap_of_holds {w : Width} {n : Int} (h : w.Holds n) : w.wrap n = n := by
  obtain ⟨low, high⟩ := h
  rw [wrap, Int.emod_eq_of_lt (by omega) (by omega)]
  omega

end Width

/-- A number of a type, or none once a step on the way to it has failed. -/
def Checked (w : Width) : Type := Option { n : Int // w.Holds n }

namespace Checked

variable {w w' : Width}

def ofInt (n : Int) : Checked w := if h : w.Holds n then some ⟨n, h⟩ else none

instance (n : Nat) : OfNat (Checked w) n := ⟨ofInt n⟩

def apply (f : Int → Int → Int) : Checked w → Checked w → Checked w
  | some a, some b => ofInt (f a.val b.val)
  | _, _ => none

def require (p : Int → Prop) [DecidablePred p] : Checked w → Checked w
  | some a => if p a.val then some a else none
  | none => none

instance : Add (Checked w) := ⟨apply (· + ·)⟩

instance : Sub (Checked w) := ⟨apply (· - ·)⟩

instance : Mul (Checked w) := ⟨apply (· * ·)⟩

/-- Division toward zero. -/
instance : Div (Checked w) := ⟨fun x y => apply Int.tdiv x (y.require (· ≠ 0))⟩

/-- Division with a remainder that is not negative. -/
def floorDiv (x y : Checked w) : Checked w := apply (· / ·) x (y.require (· ≠ 0))

def cast (w' : Width) : Checked w → Checked w'
  | some a => some ⟨w'.wrap a.val, w'.holds_wrap a.val⟩
  | none => none

/-- The computation does not fail and has this result. -/
def Yields (x : Checked w) (n : Int) : Prop := ∃ h : w.Holds n, x = some ⟨n, h⟩

variable {x y : Checked w} {a b : Int}

theorem Yields.holds (hx : x.Yields a) : w.Holds a := hx.1

theorem yields_ofInt (h : w.Holds a) : (ofInt a : Checked w).Yields a := ⟨h, dif_pos h⟩

theorem Yields.apply {f : Int → Int → Int} (hx : x.Yields a) (hy : y.Yields b)
    (fits : w.Holds (f a b)) : (apply f x y).Yields (f a b) := by
  obtain ⟨_, rfl⟩ := hx
  obtain ⟨_, rfl⟩ := hy
  exact yields_ofInt fits

theorem Yields.require {p : Int → Prop} [DecidablePred p] (hx : x.Yields a) (h : p a) :
    (x.require p).Yields a := by
  obtain ⟨holds, rfl⟩ := hx
  exact ⟨holds, if_pos h⟩

/-- A cast to a type that has the number keeps it. -/
theorem Yields.cast (hx : x.Yields a) (fits : w'.Holds a) : (x.cast w').Yields a := by
  obtain ⟨_, rfl⟩ := hx
  have same := Width.wrap_of_holds fits
  exact ⟨fits, congrArg some (Subtype.ext same)⟩

/-- A division of what is not negative rounds down and stays within the type. -/
theorem Yields.div (hx : x.Yields a) (hy : y.Yields b) (nonneg : 0 ≤ a)
    (positive : 0 < b) : (x / y).Yields (a / b) := by
  have low : 0 ≤ a / b := Int.ediv_nonneg nonneg (Int.le_of_lt positive)
  have high : a / b ≤ a := Int.ediv_le_self b nonneg
  have least : w.least ≤ 0 := by cases w <;> decide
  have fits : w.Holds (a.tdiv b) := by
    rw [Int.tdiv_eq_ediv_of_nonneg nonneg]
    exact ⟨Int.le_trans least low, Int.le_trans high hx.holds.2⟩
  rw [← Int.tdiv_eq_ediv_of_nonneg nonneg]
  exact hx.apply (hy.require (Int.ne_of_gt positive)) fits

theorem yields_literal (n : Nat) (h : w.Holds n) :
    (OfNat.ofNat n : Checked w).Yields n := yields_ofInt h

/- The steps in 64 bits, with what each asks for as plain inequalities. -/
section

variable {x y : Checked .int64}

theorem yields_wide (n : Nat) (fits : n ≤ 9223372036854775807) :
    (OfNat.ofNat n : Checked .int64).Yields n :=
  yields_literal n (Width.holds_int64.mpr (by omega))

theorem Yields.add (hx : x.Yields a) (hy : y.Yields b)
    (fits : -9223372036854775808 ≤ a + b ∧ a + b ≤ 9223372036854775807) :
    (x + y).Yields (a + b) := hx.apply hy fits

theorem Yields.sub (hx : x.Yields a) (hy : y.Yields b)
    (fits : -9223372036854775808 ≤ a - b ∧ a - b ≤ 9223372036854775807) :
    (x - y).Yields (a - b) := hx.apply hy fits

theorem Yields.mul (hx : x.Yields a) (hy : y.Yields b)
    (fits : -9223372036854775808 ≤ a * b ∧ a * b ≤ 9223372036854775807) :
    (x * y).Yields (a * b) := hx.apply hy fits

theorem Yields.floorDiv (hx : x.Yields a) (hy : y.Yields b) (nonzero : b ≠ 0)
    (fits : -9223372036854775808 ≤ a / b ∧ a / b ≤ 9223372036854775807) :
    (x.floorDiv y).Yields (a / b) := hx.apply (hy.require nonzero) fits

end

/- The total so far is free in the induction: each step adds one number to it, and the totals only
grow. -/
theorem Yields.total {x y : Checked .nat16} {f : Nat → Checked .nat16} {g : Nat → Nat}
    {ks : List Nat} {first last : Nat} (start : x.Yields first)
    (each : ∀ k ∈ ks, (f k).Yields (g k)) (stop : y.Yields last)
    (fits : first + ks.foldr (fun k n => g k + n) last ≤ 65535) :
    (ks.foldl (fun n k => n + f k) x + y).Yields
      (first + ks.foldr (fun k n => g k + n) last : Nat) := by
  induction ks generalizing x first with
  | nil =>
    rw [List.foldr_nil] at fits
    exact start.apply stop (Width.holds_nat16.mpr (by omega))
  | cons k ks ih =>
    rw [List.foldr_cons, ← Nat.add_assoc] at fits ⊢
    have one : (x + f k).Yields (first + g k : Nat) :=
      start.apply (each k List.mem_cons_self) (Width.holds_nat16.mpr (by omega))
    exact ih one (fun i hi => each i (List.mem_cons_of_mem k hi)) fits

end Checked

end Calendrics
