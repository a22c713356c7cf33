import Calendrics.Error

/-! Months by number. Both calendars number their twelve months the same way. -/
namespace Calendrics

structure Month where
  value : Nat
  one_le : 1 ≤ value
  le_last : value ≤ monthsInYear
  deriving DecidableEq

namespace Month

def ofNat (n : Nat) : Except Reason Month :=
  if h : 1 ≤ n ∧ n ≤ monthsInYear then .ok ⟨n, h.1, h.2⟩ else .error .monthOutOfRange

/-- Months 1, 3, 5 and so on, the long months of the Hijri year. -/
def IsOdd (m : Month) : Prop := m.value % 2 = 1

instance (m : Month) : Decidable m.IsOdd := inferInstanceAs (Decidable (m.value % 2 = 1))

theorem ofNat_value (m : Month) : ofNat m.value = .ok m := by
  rw [ofNat, dif_pos ⟨m.one_le, m.le_last⟩]

end Month

end Calendrics
