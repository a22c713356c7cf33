import Calendrics.Date
import Calendrics.Proofs.DayOrder

/-! Decoding walks the calendar. The date after a date is the next day of its month, the first day
of the next month, or the first day of the next year; it is the date whose day number is one more.
So the dates decoded along a walk by single days follow each other. Main statement:
`decoding_walks_day_by_day`. -/
namespace Calendrics

namespace Calendar

variable {c : Calendar} {t t' : Triple}

/-- One date to the next: within a month, from the last day of a month that is not the last, and
from the last day of a year. -/
inductive Follows (c : Calendar) : Triple → Triple → Prop
  | nextDay {year : Int} {month day : Nat} (within : day < c.daysInMonth year month) :
      Follows c ⟨year, month, day⟩ ⟨year, month, day + 1⟩
  | nextMonth {year : Int} {month : Nat} (within : month < monthsInYear) :
      Follows c ⟨year, month, c.daysInMonth year month⟩ ⟨year, month + 1, 1⟩
  | nextYear {year : Int} :
      Follows c ⟨year, monthsInYear, c.daysInMonth year monthsInYear⟩ ⟨year + 1, 1, 1⟩

theorem one_le_daysInMonth (c : Calendar) (year : Int) {month : Nat} (low : 1 ≤ month)
    (high : month ≤ monthsInYear) : 1 ≤ c.daysInMonth year month := by
  cases c with
  | gregorian =>
    simp only [daysInMonth, Gregorian.daysInMonth]
    split
    · decide
    · simp only [monthsInYear] at high
      interval_cases month
      all_goals decide
  | hijri =>
    simp only [daysInMonth, Hijri.daysInMonth]
    split
    · decide
    · decide

theorem Follows.has (h : c.Has t) (next : c.Follows t t') : c.Has t' := by
  cases next with
  | nextDay within => exact ⟨h.month_pos, h.month_le, Nat.le_add_left _ _, within⟩
  | @nextMonth year month within =>
    have some_day := c.one_le_daysInMonth year (Nat.le_add_left 1 month) within
    exact ⟨Nat.le_add_left _ _, within, Nat.le_refl _, some_day⟩
  | @nextYear year =>
    have first_month : 1 ≤ monthsInYear := by decide
    have some_day := c.one_le_daysInMonth (year + 1) (Nat.le_refl 1) first_month
    exact ⟨Nat.le_refl _, first_month, Nat.le_refl _, some_day⟩

theorem exists_follows (h : c.Has t) : ∃ t', c.Follows t t' := by
  obtain ⟨year, month, day⟩ := t
  by_cases within : day < c.daysInMonth year month
  · exact ⟨_, .nextDay within⟩
  · have last : day = c.daysInMonth year month := Nat.le_antisymm h.day_le (Nat.le_of_not_lt within)
    subst last
    by_cases more : month < monthsInYear
    · exact ⟨_, .nextMonth more⟩
    · have last_month : month = monthsInYear :=
        Nat.le_antisymm h.month_le (Nat.le_of_not_lt more)
      subst last_month
      exact ⟨_, .nextYear⟩

theorem dayNumber_after_last_day (c : Calendar) (year : Int) :
    c.dayNumber ⟨year + 1, 1, 1⟩ =
      c.dayNumber ⟨year, monthsInYear, c.daysInMonth year monthsInYear⟩ + 1 := by
  have last := c.dayNumber_eq_daysBefore year (c.daysInMonth year monthsInYear) (by decide)
    (Nat.le_refl monthsInYear)
  have whole := c.daysBefore_last year
  rw [c.daysBefore_succ year (by decide)] at whole
  rw [c.dayNumber_next_year year 1, last]
  omega

theorem Follows.dayNumber (h : c.Has t) (next : c.Follows t t') :
    c.dayNumber t' = c.dayNumber t + 1 := by
  cases next with
  | @nextDay year month day within =>
    rw [c.dayNumber_day year month (day + 1), c.dayNumber_day year month day]
    omega
  | @nextMonth year month within =>
    have low : 1 ≤ month := h.month_pos
    rw [c.dayNumber_next_month year 1 low within,
      c.dayNumber_day year month (c.daysInMonth year month)]
    omega
  | @nextYear year => exact c.dayNumber_after_last_day year

/- A date that is one day later is the one that follows, since the calendar has only one date on a
day. -/
theorem follows_iff_dayNumber (h : c.Has t) (h' : c.Has t') :
    c.Follows t t' ↔ c.dayNumber t' = c.dayNumber t + 1 := by
  constructor
  · exact Follows.dayNumber h
  · intro later
    obtain ⟨next, follows⟩ := exists_follows h
    have same_day : c.dayNumber t' = c.dayNumber next := later.trans (follows.dayNumber h).symm
    rw [dayNumber_injective h' (follows.has h) same_day]
    exact follows

theorem follows_ofDayNumber_iff (c : Calendar) (j : Int) (t : Triple) :
    c.Follows (c.ofDayNumber j) t ↔ t = c.ofDayNumber (j + 1) := by
  have has := c.has_ofDayNumber j
  have has_next := c.has_ofDayNumber (j + 1)
  constructor
  · intro follows
    apply dayNumber_injective (follows.has has) has_next
    rw [follows.dayNumber has, dayNumber_ofDayNumber, dayNumber_ofDayNumber]
  · rintro rfl
    rw [follows_iff_dayNumber has has_next, dayNumber_ofDayNumber, dayNumber_ofDayNumber]

end Calendar

namespace DayNumber

theorem ofInt?_of_inRange {n : Int} (h : InDayRange n) : ofInt? n = some ⟨n, h⟩ :=
  ofInt?_eq_some_iff.mpr rfl

theorem walk_of_inRange {n : Int} (step : Int) (count : Nat) (h : InDayRange n) :
    walk step n (count + 1) = ⟨n, h⟩ :: walk step (n + step) count := by
  rw [walk, ofInt?_of_inRange h]

theorem walk_of_not_inRange {n : Int} (step : Int) (count : Nat) (h : ¬ InDayRange n) :
    walk step n count = [] := by
  cases count with
  | zero => rfl
  | succ count => rw [walk, ofInt?_eq_none_iff.mpr h]

theorem value_of_mem_head_walk {step n : Int} {count : Nat} {j : DayNumber}
    (h : j ∈ (walk step n count).head?) : j.value = n := by
  cases count with
  | zero => cases h
  | succ count =>
    by_cases range : InDayRange n
    · rw [walk_of_inRange step count range] at h
      cases h
      rfl
    · rw [walk_of_not_inRange step _ range] at h
      cases h

/-- A walk by single days meets as many days as it is asked for, or all that are left. -/
theorem length_walk_one (count : Nat) {n : Int} (low : leastDay ≤ n) :
    (walk 1 n count).length = min count (greatestDay + 1 - n).toNat := by
  induction count generalizing n with
  | zero => simp [walk]
  | succ count ih =>
    by_cases range : InDayRange n
    · have high := range.2
      rw [walk_of_inRange 1 count range, List.length_cons, ih (by omega)]
      omega
    · have beyond : greatestDay < n := by
        rw [InDayRange] at range
        omega
      rw [walk_of_not_inRange 1 _ range, List.length_nil]
      omega

/- The induction is on the number of days, with the day that the walk starts from free. -/
theorem walk_one_isChain (c : Calendar) (n : Int) (count : Nat) :
    ((walk 1 n count).map fun j => (Date.ofDayNumber c j).triple).IsChain c.Follows := by
  induction count generalizing n with
  | zero => exact .nil
  | succ count ih =>
    by_cases range : InDayRange n
    · rw [walk_of_inRange 1 count range, List.map_cons, List.isChain_cons]
      refine ⟨?_, ih (n + 1)⟩
      intro t first
      obtain ⟨j, head, rfl⟩ := Option.map_eq_some_iff.mp (List.head?_map ▸ first)
      have value := value_of_mem_head_walk head
      exact (c.follows_ofDayNumber_iff n _).mpr (congrArg c.ofDayNumber value)
    · rw [walk_of_not_inRange 1 _ range]
      exact .nil

end DayNumber

/-- After every day number but the last there is one more, and its date is the one that follows in
the calendar, in a month, over the end of a month or over the end of a year. The dates along a walk
by single days follow each other, for as many days as are asked for or as are left. -/
theorem decoding_walks_day_by_day (c : Calendar) :
    (∀ j : DayNumber, j.value < greatestDay → ∃ next, DayNumber.ofInt? (j.value + 1) = some next ∧
      ∀ t, c.Follows (Date.ofDayNumber c j).triple t ↔ t = (Date.ofDayNumber c next).triple) ∧
    ∀ (j : DayNumber) (count : Nat),
      ((DayNumber.walk 1 j.value count).map fun i => (Date.ofDayNumber c i).triple).IsChain
        c.Follows ∧
      (DayNumber.walk 1 j.value count).length = min count (greatestDay + 1 - j.value).toNat := by
  constructor
  · intro j before_last
    have range : InDayRange (j.value + 1) :=
      ⟨Int.le_trans j.inRange.1 (Int.le_add_one (Int.le_refl _)), before_last⟩
    exact ⟨⟨_, range⟩, DayNumber.ofInt?_of_inRange range, c.follows_ofDayNumber_iff j.value⟩
  · intro j count
    exact ⟨DayNumber.walk_one_isChain c j.value count, DayNumber.length_walk_one count j.inRange.1⟩

/- The leap day that ends the year before year zero. -/
theorem year_zero_follows_leap_day :
    let last : DayNumber := ⟨1948085, by decide⟩
    last.value < greatestDay ∧ (Date.ofDayNumber .hijri last).triple = ⟨-1, 12, 30⟩ ∧
      ∃ next, DayNumber.ofInt? 1948086 = some next ∧
        ∀ t, Calendar.hijri.Follows ⟨-1, 12, 30⟩ t ↔ t = (Date.ofDayNumber .hijri next).triple := by
  intro last
  have before_last : last.value < greatestDay := by decide
  have date : (Date.ofDayNumber .hijri last).triple = ⟨-1, 12, 30⟩ := by decide
  have step := (decoding_walks_day_by_day .hijri).1 last before_last
  rw [date] at step
  exact ⟨before_last, date, step⟩

end Calendrics
