import Calendrics.Proofs.DateOrder
import Calendrics.Proofs.DatePrinting

/-! Written dates are ordered as text. Runs of digits of one length compare as their values, and
after the year the components have one width each; so dates whose written years are equally long,
and none of them negative, compare byte by byte as they do by year, month and day. Main statement:
`written_order_is_date_order`. -/
namespace Calendrics

/- Lists that are compared element by element, the first difference deciding. -/
section Lexicographic

variable {α : Type} [Ord α]

theorem compare_append {as bs : List α} (h : as.length = bs.length) (cs ds : List α) :
    compare (as ++ cs) (bs ++ ds) = (compare as bs).then (compare cs ds) := by
  induction as generalizing bs with
  | nil =>
    cases List.length_eq_zero_iff.mp h.symm
    rfl
  | cons a as ih =>
    cases bs with
    | nil => cases h
    | cons b bs =>
      simp only [List.cons_append, List.compare_cons_cons, ih (Nat.succ.inj h), Ordering.then_assoc]

theorem compare_add_left (k m n : Nat) : compare (k + m) (k + n) = compare m n := by
  simp only [Nat.compare_eq_ite_lt, Nat.add_lt_add_iff_left]

theorem compare_natAbs {m n : Int} (hm : 0 ≤ m) (hn : 0 ≤ n) :
    compare m.natAbs n.natAbs = compare m n := by
  have below : m.natAbs < n.natAbs ↔ m < n := by omega
  have above : n.natAbs < m.natAbs ↔ n < m := by omega
  simp only [Nat.compare_eq_ite_lt, Int.compare_eq_ite_lt, below, above]

/-- In a positional code the higher place decides, if what follows it stays below the base. -/
theorem compare_mul_add {base a b m n : Nat} (hm : m < base) (hn : n < base) :
    compare (a * base + m) (b * base + n) = (compare a b).then (compare m n) := by
  have step {x y : Nat} (below : x < y) : x * base + base ≤ y * base :=
    (Nat.succ_mul x base).symm.le.trans (Nat.mul_le_mul_right base below)
  rcases Nat.lt_trichotomy a b with below | same | above
  · have room := step below
    rw [Nat.compare_eq_lt.mpr below, Nat.compare_eq_lt.mpr (by omega)]
    rfl
  · rw [same, compare_add_left, Nat.compare_eq_eq.mpr rfl, Ordering.eq_then]
  · have room := step above
    rw [Nat.compare_eq_gt.mpr above, Nat.compare_eq_gt.mpr (by omega)]
    rfl

end Lexicographic

namespace Text

/-- The bytes of a text in UTF-8. -/
def encoded (s : String) : List UInt8 := s.toByteArray.data.toList

/-- The order of texts byte by byte; a text comes before those that it begins. -/
def compareBytes (s t : String) : Ordering := compare (encoded s) (encoded t)

def Ascii (cs : List Char) : Prop := ∀ c ∈ cs, c.toNat < 128

theorem encoded_ofList {cs : List Char} (h : Ascii cs) :
    encoded (String.ofList cs) = cs.map fun c => UInt8.ofNat c.toNat := by
  have one_byte : ∀ c ∈ cs, String.utf8EncodeChar c = [UInt8.ofNat c.toNat] := by
    intro c member
    have small : c.val.toNat ≤ 127 := Nat.le_of_lt_succ (h c member)
    have size : c.utf8Size = 1 := Char.utf8Size_eq_one_iff.mpr (UInt32.le_iff_toNat_le.mpr small)
    exact String.utf8EncodeChar_eq_singleton size
  rw [encoded, String.toByteArray_ofList, List.utf8Encode, List.data_toByteArray,
    List.flatMap_congr one_byte, ← List.map_eq_flatMap]

theorem compare_byte {m n : Nat} (hm : m < 128) (hn : n < 128) :
    compare (UInt8.ofNat m) (UInt8.ofNat n) = compare m n := by
  have value {k : Nat} (small : k < 128) : (UInt8.ofNat k).toNat = k :=
    UInt8.toNat_ofNat_of_lt' (Nat.lt_trans small (by decide))
  change compareOfLessAndEq (UInt8.ofNat m) (UInt8.ofNat n) = compareOfLessAndEq m n
  simp only [compareOfLessAndEq, UInt8.lt_iff_toNat_lt, ← UInt8.toNat_inj, value hm, value hn]

theorem compareBytes_ofList {cs ds : List Char} (hc : Ascii cs) (hd : Ascii ds) :
    compareBytes (String.ofList cs) (String.ofList ds) =
      compare (cs.map Char.toNat) (ds.map Char.toNat) := by
  rw [compareBytes, encoded_ofList hc, encoded_ofList hd]
  induction cs generalizing ds with
  | nil => cases ds <;> rfl
  | cons c cs ih =>
    cases ds with
    | nil => rfl
    | cons d ds =>
      obtain ⟨first, rest⟩ := List.forall_mem_cons.mp hc
      obtain ⟨first', rest'⟩ := List.forall_mem_cons.mp hd
      simp only [List.map_cons, List.compare_cons_cons, compare_byte first first', ih rest rest']

end Text

namespace Decimal

/-- Runs of digits of one length are ordered as their values. -/
theorem compare_value {cs ds : List Char} (digits : ∀ c ∈ cs, c.isDigit)
    (digits' : ∀ d ∈ ds, d.isDigit) (length : cs.length = ds.length) :
    compare (cs.map Char.toNat) (ds.map Char.toNat) = compare (value cs) (value ds) := by
  induction cs generalizing ds with
  | nil =>
    cases List.length_eq_zero_iff.mp length.symm
    rfl
  | cons c cs ih =>
    cases ds with
    | nil => cases length
    | cons d ds =>
      obtain ⟨first, rest⟩ := List.forall_mem_cons.mp digits
      obtain ⟨first', rest'⟩ := List.forall_mem_cons.mp digits'
      have shorter : cs.length = ds.length := Nat.succ.inj length
      have small' : value ds < 10 ^ cs.length := shorter ▸ value_lt rest'
      -- The digits are codes from 48 on, and counting from there keeps the order.
      have of_digit : compare c.toNat d.toNat = compare (c.toNat - 48) (d.toNat - 48) := by
        rw [← compare_add_left 48 (c.toNat - 48), Nat.add_sub_cancel' (isDigit_bounds first).1,
          Nat.add_sub_cancel' (isDigit_bounds first').1]
      rw [value_cons, value_cons, ← shorter, compare_mul_add (value_lt rest) small', ← of_digit,
        ← ih rest rest' shorter, List.map_cons, List.map_cons, List.compare_cons_cons]

theorem compare_padded {width m n : Nat} (length : (padded width m).length = (padded width n).length) :
    compare ((padded width m).map Char.toNat) ((padded width n).map Char.toNat) = compare m n := by
  rw [compare_value (fun _ => isDigit_of_mem_padded) (fun _ => isDigit_of_mem_padded) length,
    value_padded, value_padded]

end Decimal

namespace Triple

variable {a b t : Triple}

theorem written_of_nonneg (h : 0 ≤ t.year) :
    t.written = Decimal.padded 4 t.year.natAbs ++ separator ::
      (Decimal.padded 2 t.month ++ separator :: Decimal.padded 2 t.day) := by
  have unsigned : sign t.year = [] := if_neg (Int.not_lt.mpr h)
  simp [written, unsigned]

theorem ascii_written (t : Triple) : Text.Ascii t.written := by
  intro c member
  rw [← spelling_text] at member
  rcases t.spelling.mem_text member with rfl | digit
  · decide
  · have last := (Decimal.isDigit_bounds digit).2
    omega

/- The separators are the same in both, so the components are compared in order. -/
theorem compare_written (ha : 0 ≤ a.year) (hb : 0 ≤ b.year)
    (years : (Decimal.padded 4 a.year.natAbs).length = (Decimal.padded 4 b.year.natAbs).length)
    (months : (Decimal.padded 2 a.month).length = (Decimal.padded 2 b.month).length)
    (days : (Decimal.padded 2 a.day).length = (Decimal.padded 2 b.day).length) :
    Ord.compare (a.written.map Char.toNat) (b.written.map Char.toNat) = a.compare b := by
  have mark : Ord.compare separator.toNat separator.toNat = .eq := Nat.compare_eq_eq.mpr rfl
  rw [written_of_nonneg ha, written_of_nonneg hb]
  simp only [List.map_append, List.map_cons]
  rw [compare_append (by simpa using years), List.compare_cons_cons, mark, Ordering.eq_then,
    compare_append (by simpa using months), List.compare_cons_cons, mark, Ordering.eq_then,
    Decimal.compare_padded years, Decimal.compare_padded months, Decimal.compare_padded days,
    compare_natAbs ha hb, Triple.compare]

end Triple

namespace Date

variable {c : Calendar}

/-- The year as it is written, if it is not negative: what stands before the first separator. -/
def writtenYear (d : Date c) : List Char := d.text.toList.takeWhile (· ≠ Triple.separator)

theorem writtenYear_of_nonneg {d : Date c} (h : 0 ≤ d.triple.year) :
    d.writtenYear = Decimal.padded 4 d.triple.year.natAbs := by
  have digits : ∀ x ∈ Decimal.padded 4 d.triple.year.natAbs, decide (x ≠ Triple.separator) = true :=
    fun x member => decide_eq_true (Triple.ne_separator_of_isDigit (Decimal.isDigit_of_mem_padded member))
  rw [writtenYear, toList_text, Triple.written_of_nonneg h, List.takeWhile_append_of_pos digits]
  simp

theorem length_writtenYear {d : Date c} (low : 0 ≤ d.triple.year) (high : d.triple.year ≤ 9999) :
    d.writtenYear.length = 4 := by
  rw [writtenYear_of_nonneg low]
  exact Decimal.length_padded_of_lt (by decide) (by omega)

theorem compareBytes_text {a b : Date c} (ha : 0 ≤ a.triple.year) (hb : 0 ≤ b.triple.year)
    (years : a.writtenYear.length = b.writtenYear.length) :
    Text.compareBytes a.text b.text = a.compare b := by
  rw [writtenYear_of_nonneg ha, writtenYear_of_nonneg hb] at years
  have two_digits {n : Nat} (small : n < 100) : (Decimal.padded 2 n).length = 2 :=
    Decimal.length_padded_of_lt (by decide) small
  obtain ⟨month, day⟩ := a.month_day_lt
  obtain ⟨month', day'⟩ := b.month_day_lt
  rw [Date.text, Date.text, Triple.text, Triple.text,
    Text.compareBytes_ofList a.triple.ascii_written b.triple.ascii_written]
  exact Triple.compare_written ha hb years ((two_digits month).trans (two_digits month').symm)
    ((two_digits day).trans (two_digits day').symm)

end Date

/-- Of two dates of a calendar whose years are not negative and take equally many digits, as they
do up to the year 9999, the written forms compare byte by byte as the dates do, and so as their
days. -/
theorem written_order_is_date_order (c : Calendar) (a b : Date c) (ha : 0 ≤ a.triple.year)
    (hb : 0 ≤ b.triple.year)
    (years : a.writtenYear.length = b.writtenYear.length ∨
      a.triple.year ≤ 9999 ∧ b.triple.year ≤ 9999) :
    Text.compareBytes a.text b.text = a.compare b ∧
      Text.compareBytes a.text b.text = a.dayNumber.compare b.dayNumber := by
  have same_length : a.writtenYear.length = b.writtenYear.length := by
    rcases years with same | ⟨high, high'⟩
    · exact same
    · rw [Date.length_writtenYear ha high, Date.length_writtenYear hb high']
  have by_date := Date.compareBytes_text ha hb same_length
  exact ⟨by_date, by_date.trans (Date.compare_eq a b)⟩

/- The last day in range, after a day of a year that is written with as many digits. -/
theorem last_day_is_written_last :
    let d : Date .hijri :=
      ⟨⟨1000000, 12, 1⟩, ⟨⟨by decide, by decide, by decide, by decide⟩, by decide⟩⟩
    let last : Date .hijri := Date.ofDayNumber .hijri ⟨greatestDay, by decide⟩
    0 ≤ d.triple.year ∧ 0 ≤ last.triple.year ∧ d.writtenYear.length = last.writtenYear.length ∧
      Text.compareBytes d.text last.text = .lt ∧ d.compare last = .lt := by
  intro d last
  have low : 0 ≤ d.triple.year := by decide
  have low' : 0 ≤ last.triple.year := by decide
  have years : d.writtenYear.length = last.writtenYear.length := by decide
  have before : d.compare last = .lt := by decide
  have by_date := (written_order_is_date_order .hijri d last low low' (.inl years)).1
  exact ⟨low, low', years, by_date.trans before, before⟩

/- A longer year is written before a shorter one that begins with a higher digit. -/
example : Text.compareBytes "10000-01-01" "9999-12-31" = .lt := by decide

end Calendrics
