import Calendrics.Proofs.DateGrammar
import Calendrics.Proofs.SameDay

/-! What the reader of dates makes of a text: the triple of the text, if the calendar accepts it.
Reading undoes writing: the written form spells its triple, and there are no blanks in it. Main
statements: `TaggedDate.read_eq_ok_iff`, `Triple.read_between_blanks`, and from it
`TaggedDate.read_written`. -/
namespace Calendrics

namespace Text

theorem isBlank_of_isDigit {c : Char} (h : c.isDigit) : isBlank c = false := by
  have beside : ∀ n ∈ blankCodes, n < '0'.toNat ∨ '9'.toNat < n := by decide
  have digit := Char.isDigit_iff_toNat.mp h
  rw [isBlank, List.contains_eq_mem, decide_eq_false_iff_not]
  intro blank
  have outside := beside c.toNat blank
  omega

theorem trims_of_no_blank {before t after : List Char} (no_blank : ∀ c ∈ t, isBlank c = false)
    (blank_before : Blanks before) (blank_after : Blanks after) :
    Trims (before ++ t ++ after) t where
  around := ⟨before, after, rfl, blank_before, blank_after⟩
  first c first := no_blank c (List.mem_of_mem_head? first)
  last c last := no_blank c (List.mem_of_mem_getLast? last)

end Text

namespace Triple

variable {before after : List Char}

def spelling (t : Triple) : Spelling where
  negative := decide (t.year < 0)
  year := ⟨Decimal.padded 4 t.year.natAbs, Decimal.isRun_padded 4 _⟩
  month := ⟨Decimal.padded 2 t.month, Decimal.isRun_padded 2 _⟩
  day := ⟨Decimal.padded 2 t.day, Decimal.isRun_padded 2 _⟩

theorem spelling_text (t : Triple) : t.spelling.text = t.written := by
  by_cases negative : t.year < 0
  · simp [Spelling.text, Spelling.body, spelling, written, sign, negative]
  · simp [Spelling.text, Spelling.body, spelling, written, sign, negative]

theorem spelling_triple (t : Triple) : t.spelling.triple = t := by
  apply ext
  · simp only [Spelling.triple, spelling, Decimal.Numeral.value, Decimal.value_padded,
      decide_eq_true_eq]
    omega
  · exact Decimal.value_padded 2 t.month
  · exact Decimal.value_padded 2 t.day

theorem isBlank_of_mem_text {s : Spelling} {c : Char} (h : c ∈ s.text) : Text.isBlank c = false := by
  rcases s.mem_text h with rfl | digit
  · decide
  · exact Text.isBlank_of_isDigit digit

theorem trims_written (t : Triple) (blank_before : Text.Blanks before)
    (blank_after : Text.Blanks after) : Text.Trims (before ++ t.written ++ after) t.spelling.text := by
  rw [← spelling_text]
  exact Text.trims_of_no_blank (fun _ => isBlank_of_mem_text) blank_before blank_after

/-- A triple whose components fit is read back from its written form, whatever blanks are around
it. -/
theorem read_between_blanks {t : Triple} (h : t.Readable)
    (blank_before : Text.Blanks before) (blank_after : Text.Blanks after) :
    read (before ++ t.written ++ after) = .ok t := by
  have fits : t.spelling.triple.Readable := by
    rw [spelling_triple]
    exact h
  rw [read_of_spelling (trims_written t blank_before blank_after) fits, spelling_triple]

theorem read_written {t : Triple} (h : t.Readable) : read t.written = .ok t := by
  have alone := read_between_blanks h (List.forall_mem_nil _) (List.forall_mem_nil _)
  rwa [List.nil_append, List.append_nil] at alone

end Triple

namespace Date

variable {c : Calendar} {cs : List Char}

theorem readable (d : Date c) : d.triple.Readable := by
  obtain ⟨-, -, month, day⟩ := d.fits
  have year := c.yearOf_bounds d.dayNumber
  rw [d.ofDayNumber_dayNumber_triple] at year
  constructor
  · simp only [Triple.greatestYear]
    omega
  · exact Nat.le_of_lt_succ month
  · exact Nat.le_of_lt_succ day

theorem read_of_text {t : Triple} (h : Triple.read cs = .ok t) :
    read c cs = (ofTriple c t).mapError .invalidDate := by
  rw [read, h]
  rfl

theorem read_of_refused {e : ReadError} (h : Triple.read cs = .error e) : read c cs = .error e := by
  rw [read, h]
  rfl

theorem read_eq_ok_iff {d : Date c} : read c cs = .ok d ↔ Triple.read cs = .ok d.triple := by
  cases found : Triple.read cs with
  | error e => simp only [read_of_refused found, reduceCtorEq]
  | ok t =>
    rw [read_of_text found, mapError_eq_ok_iff, ofTriple_eq_ok_iff, Except.ok.injEq]
    exact eq_comm

end Date

namespace TaggedDate

theorem read_eq_ok_iff {c : Calendar} {cs : List Char} {d : TaggedDate} :
    read c cs = .ok d ↔ d.calendar = c ∧ Triple.read cs = .ok d.triple := by
  rw [read, map_eq_ok_iff]
  constructor
  · rintro ⟨date, accepted, rfl⟩
    exact ⟨rfl, Date.read_eq_ok_iff.mp accepted⟩
  · rintro ⟨rfl, text⟩
    exact ⟨d.date, Date.read_eq_ok_iff.mpr text, rfl⟩

theorem read_of_date {c : Calendar} {cs : List Char} {d : Date c} (h : Date.read c cs = .ok d) :
    read c cs = .ok ⟨c, d⟩ :=
  map_eq_ok_iff.mpr ⟨d, h, rfl⟩

theorem read_written (d : TaggedDate) : read d.calendar d.triple.written = .ok d :=
  read_eq_ok_iff.mpr ⟨rfl, Triple.read_written d.date.readable⟩

end TaggedDate

end Calendrics
