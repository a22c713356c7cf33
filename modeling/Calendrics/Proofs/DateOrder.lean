import Calendrics.Conversion
import Calendrics.Proofs.SameDay

/-! Dates are ordered as their days are. So conversion keeps the order of dates, and sorting dates
puts their days in order, in the only arrangement that does. Main statement:
`date_order_is_day_order`. -/
namespace Calendrics

namespace Date

variable {c : Calendar}

theorem compare_eq (a b : Date c) : a.compare b = a.dayNumber.compare b.dayNumber :=
  (Calendar.compare_dayNumber a.valid.toHas b.valid.toHas).symm

theorem isLE_compare {a b : Date c} :
    (a.compare b).isLE ↔ a.dayNumber.value ≤ b.dayNumber.value := by
  rw [compare_eq, DayNumber.compare, Int.isLE_compare]

theorem le_antisymm {a b : Date c} (forward : a.dayNumber.value ≤ b.dayNumber.value)
    (backward : b.dayNumber.value ≤ a.dayNumber.value) : a = b :=
  (dayEquiv c).injective (DayNumber.ext (Int.le_antisymm forward backward))

theorem sort_perm (ds : List (Date c)) : (sort ds).Perm ds := List.mergeSort_perm ds _

theorem isLE_trans (a b e : Date c) (first : (a.compare b).isLE) (second : (b.compare e).isLE) :
    (a.compare e).isLE :=
  isLE_compare.mpr (Int.le_trans (isLE_compare.mp first) (isLE_compare.mp second))

theorem isLE_total (a b : Date c) : ((a.compare b).isLE || (b.compare a).isLE) = true := by
  rw [Bool.or_eq_true, isLE_compare, isLE_compare]
  exact Int.le_total _ _

theorem sort_pairwise (ds : List (Date c)) :
    (sort ds).Pairwise fun a b => a.dayNumber.value ≤ b.dayNumber.value :=
  (List.pairwise_mergeSort isLE_trans isLE_total ds).imp isLE_compare.mp

/- Days that do not fall leave no choice: equal days are one date, so there is only one
arrangement. -/
theorem eq_sort_iff {ds es : List (Date c)} :
    es = sort ds ↔
      es.Perm ds ∧ es.Pairwise fun a b => a.dayNumber.value ≤ b.dayNumber.value := by
  constructor
  · rintro rfl
    exact ⟨sort_perm ds, sort_pairwise ds⟩
  · rintro ⟨perm, sorted⟩
    exact List.Perm.eq_of_pairwise (fun _ _ _ _ => le_antisymm) sorted (sort_pairwise ds)
      (perm.trans (sort_perm ds).symm)

end Date

theorem Direction.cross_compare (direction : Direction) (a b : Date direction.source) :
    (direction.cross a).compare (direction.cross b) = a.compare b := by
  rw [Date.compare_eq, Date.compare_eq, cross, cross, Date.dayNumber_ofDayNumber,
    Date.dayNumber_ofDayNumber]

/-- On each calendar the order by year, month and day is the order of days, less, equal and greater
alike. Each direction of conversion keeps it, and a list of dates is sorted by it exactly when its
day numbers do not fall. -/
theorem date_order_is_day_order :
    (∀ (c : Calendar) (a b : Date c), a.compare b = a.dayNumber.compare b.dayNumber) ∧
    (∀ (direction : Direction) (a b : Date direction.source),
      (direction.cross a).compare (direction.cross b) = a.compare b) ∧
    ∀ (c : Calendar) (ds es : List (Date c)), es = Date.sort ds ↔
      es.Perm ds ∧ es.Pairwise fun a b => a.dayNumber.value ≤ b.dayNumber.value :=
  ⟨fun _ => Date.compare_eq, Direction.cross_compare, fun _ _ _ => Date.eq_sort_iff⟩

end Calendrics
