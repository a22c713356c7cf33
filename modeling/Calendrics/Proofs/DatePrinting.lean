import Calendrics.Proofs.DateReading

/-! The written form of a date is the canonical one of its spellings: the year is a canonical
numeral of at least four digits, the month and the day are two digits each. Main statement:
`writing_is_canonical`. -/
namespace Calendrics

namespace Triple

variable {t : Triple} {s : Spelling} {before after : List Char}

/-- A year of at least four digits, a month and a day of two, and no sign before year zero. -/
structure Spelling.Canonical (s : Spelling) : Prop where
  year : s.year.Canonical 4
  month : s.month.digits.length = 2
  day : s.day.digits.length = 2
  no_minus_zero : s.negative → s.year.value ≠ 0

theorem spelling_canonical (month : t.month < 100) (day : t.day < 100) : t.spelling.Canonical where
  year := Decimal.Numeral.canonical_of_eq (by decide) rfl
  month := Decimal.length_padded_of_lt (by decide) month
  day := Decimal.length_padded_of_lt (by decide) day
  no_minus_zero := by
    intro negative zero
    have year : t.year.natAbs = 0 := (Decimal.value_padded 4 _).symm.trans zero
    have below : t.year < 0 := of_decide_eq_true negative
    omega

theorem digits_eq_of_two_digits {n : Decimal.Numeral} (h : n.digits.length = 2) :
    n.digits = Decimal.padded 2 n.value := by
  apply (Decimal.Numeral.canonical_iff (by decide)).mp
  exact ⟨Nat.le_of_eq h.symm, fun longer => absurd h (Nat.ne_of_gt longer)⟩

/- The sign of a canonical spelling is the sign of its year, because it does not stand before
zero. -/
theorem Spelling.Canonical.negative_eq (h : s.Canonical) :
    s.negative = decide (s.triple.year < 0) := by
  cases negative : s.negative with
  | false => simp [triple, negative]
  | true =>
    have positive := h.no_minus_zero negative
    symm
    simp only [triple, negative, if_true, decide_eq_true_eq]
    omega

/-- A triple has one canonical spelling at most, the one that is written. -/
theorem Spelling.Canonical.eq_spelling (h : s.Canonical) : s = s.triple.spelling := by
  have year := (Decimal.Numeral.canonical_iff (by decide)).mp h.year
  rw [← s.natAbs_year] at year
  exact Spelling.ext h.negative_eq (Decimal.Numeral.ext year)
    (Decimal.Numeral.ext (digits_eq_of_two_digits h.month))
    (Decimal.Numeral.ext (digits_eq_of_two_digits h.day))

/-- A magnitude beyond what the reader can hold is written but not read. -/
theorem read_unreadable (h : ¬ t.Readable) (blank_before : Text.Blanks before)
    (blank_after : Text.Blanks after) :
    read (before ++ t.written ++ after) = .error (.badFormat t.text) := by
  have none_spells : ¬ ∃ s : Spelling, s.text = t.spelling.text ∧ s.triple.Readable := by
    rintro ⟨s, same, fits⟩
    rw [Spelling.text_injective same, spelling_triple] at fits
    exact h fits
  rw [read_of_no_spelling (trims_written t blank_before blank_after) t.spelling.text_ne_nil none_spells,
    spelling_text, text]

theorem readable_iff_of_fits (fits : t.Fits) : t.Readable ↔ t.year ≠ -2 ^ 31 := by
  obtain ⟨low, high, month, day⟩ := fits
  constructor
  · rintro readable least
    have magnitude := readable.year_le
    rw [least] at magnitude
    revert magnitude
    decide
  · intro above
    refine ⟨?_, Nat.le_of_lt_succ month, Nat.le_of_lt_succ day⟩
    simp only [greatestYear]
    omega

theorem read_fitting (fits : t.Fits) (blank_before : Text.Blanks before)
    (blank_after : Text.Blanks after) :
    read (before ++ t.written ++ after) =
      if t.year = -2 ^ 31 then .error (.badFormat t.text) else .ok t := by
  by_cases least : t.year = -2 ^ 31
  · have unreadable := mt (readable_iff_of_fits fits).mp (not_not_intro least)
    rw [if_pos least, read_unreadable unreadable blank_before blank_after]
  · have readable := (readable_iff_of_fits fits).mpr least
    rw [if_neg least, read_between_blanks readable blank_before blank_after]

theorem text_injective {t t' : Triple} (h : t.text = t'.text) : t = t' := by
  have spelled : t.spelling = t'.spelling := by
    apply Spelling.text_injective
    rw [spelling_text, spelling_text]
    exact String.ofList_injective h
  rw [← spelling_triple t, ← spelling_triple t', spelled]

end Triple

namespace Date

variable {c : Calendar}

theorem toList_text (d : Date c) : d.text.toList = d.triple.written := String.toList_ofList

theorem read_text (d : Date c) {before after : List Char} (blank_before : Text.Blanks before)
    (blank_after : Text.Blanks after) : read c (before ++ d.text.toList ++ after) = .ok d := by
  rw [read_eq_ok_iff, toList_text]
  exact Triple.read_between_blanks d.readable blank_before blank_after

theorem text_injective (c : Calendar) : Function.Injective (text : Date c → String) :=
  fun _ _ same => ext (Triple.text_injective same)

theorem month_day_lt (d : Date c) : d.triple.month < 100 ∧ d.triple.day < 100 := by
  have month := d.valid.month_le
  have day := Nat.le_trans d.valid.day_le
    (c.daysInMonth_le d.triple.year d.valid.month_pos d.valid.month_le)
  rw [monthsInYear] at month
  omega

theorem canonical_spelling_iff (d : Date c) (s : Triple.Spelling) :
    s.Canonical ∧ s.triple = d.triple ↔ s = d.triple.spelling := by
  constructor
  · rintro ⟨canonical, same⟩
    rw [canonical.eq_spelling, same]
  · rintro rfl
    obtain ⟨month, day⟩ := d.month_day_lt
    exact ⟨Triple.spelling_canonical month day, d.triple.spelling_triple⟩

end Date

theorem TaggedDate.read_text (d : TaggedDate) : read d.calendar d.text.toList = .ok d := by
  rw [text, Date.toList_text]
  exact d.read_written

/-- Reading undoes writing for every triple that fits its fields, but for the least year, whose
magnitude does not fit. So every date is read back from its text, and no two dates of a calendar
share a text. The text of a date is the only canonical spelling of its triple, so the texts of two
dates that were read are equal exactly when the same triple was read. -/
theorem writing_is_canonical :
    (∀ t : Triple, t.Fits → ∀ before after, Text.Blanks before → Text.Blanks after →
      Triple.read (before ++ t.written ++ after) =
        if t.year = -2 ^ 31 then .error (.badFormat t.text) else .ok t) ∧
    (∀ (c : Calendar) (d : Date c),
      (∀ before after, Text.Blanks before → Text.Blanks after →
        Date.read c (before ++ d.text.toList ++ after) = .ok d) ∧
      ∃ s : Triple.Spelling, s.text = d.text.toList ∧
        ∀ s' : Triple.Spelling, s'.Canonical ∧ s'.triple = d.triple ↔ s' = s) ∧
    (∀ c : Calendar, Function.Injective (Date.text : Date c → String)) ∧
    ∀ (c c' : Calendar) (cs cs' : List Char) (d : Date c) (d' : Date c'),
      Date.read c cs = .ok d → Date.read c' cs' = .ok d' →
        (d.text = d'.text ↔ Triple.read cs = Triple.read cs') := by
  refine ⟨?_, ?_, Date.text_injective, ?_⟩
  · intro t fits before after blank_before blank_after
    exact Triple.read_fitting fits blank_before blank_after
  · intro c d
    refine ⟨fun _ _ => d.read_text, d.triple.spelling, ?_, d.canonical_spelling_iff⟩
    rw [Triple.spelling_text, d.toList_text]
  · intro c c' cs cs' d d' found found'
    rw [Date.read_eq_ok_iff.mp found, Date.read_eq_ok_iff.mp found', Except.ok.injEq]
    exact ⟨Triple.text_injective, congrArg Triple.text⟩

/- The least year, which is not read back, and new year of year zero, read on either calendar from
texts that are not canonical. -/
theorem year_zero_is_written_once :
    let least : Triple := ⟨-2 ^ 31, 1, 1⟩
    let d : Date .gregorian :=
      ⟨⟨0, 1, 1⟩, ⟨⟨by decide, by decide, by decide, by decide⟩, by decide⟩⟩
    let d' : Date .hijri :=
      ⟨⟨0, 1, 1⟩, ⟨⟨by decide, by decide, by decide, by decide⟩, by decide⟩⟩
    least.Fits ∧ Text.Blanks ['\t'] ∧
      Triple.read (['\t'] ++ least.written ++ []) = .error (.badFormat "-2147483648-01-01") ∧
      Date.read .gregorian (['\t'] ++ d.text.toList ++ []) = .ok d ∧
      Date.read .gregorian "-0-1-1".toList = .ok d ∧ Date.read .hijri "00000-01-001".toList = .ok d' ∧
      d.text = d'.text := by
  intro least d d'
  have fits : least.Fits := by decide
  have blank : Text.Blanks ['\t'] := by decide
  have none_after : Text.Blanks [] := by decide
  have found : Date.read .gregorian "-0-1-1".toList = .ok d := by decide
  have found' : Date.read .hijri "00000-01-001".toList = .ok d' := by decide
  have same : Triple.read "-0-1-1".toList = Triple.read "00000-01-001".toList := by decide
  have text : least.text = "-2147483648-01-01" := by decide
  obtain ⟨inverse, canonical, -, by_triple⟩ := writing_is_canonical
  have unread := inverse least fits ['\t'] [] blank none_after
  rw [if_pos rfl, text] at unread
  exact ⟨fits, blank, unread, (canonical _ d).1 _ _ blank none_after, found, found',
    (by_triple _ _ _ _ d d' found found').mpr same⟩

end Calendrics
