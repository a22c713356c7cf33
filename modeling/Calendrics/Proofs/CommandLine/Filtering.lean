import Calendrics.CommandLine.Report

/-! Which events a filter lets through. One of the directives that fit an event decides. In the
filter of a count of verbose flags some directive fits every event, and all have one threshold; so
the level alone decides, and without verbose flags there is no event at all. Main statements:
`Filter.admits_ofVerbosity_iff`, `Filter.select_quiet`. -/
namespace Calendrics.CommandLine.Filter

variable {f : Filter} {e : Event}

/-- The choice between the best directive so far and the next. -/
def closer (e : Event) (best : Option Directive) (d : Directive) : Option Directive :=
  if d.Fits e then
    match best with
    | some b => if b.Closer d then some b else some d
    | none => some d
  else best

theorem closest_eq_foldl (f : Filter) (e : Event) : f.closest e = f.foldl (closer e) none := rfl

theorem closer_cases (e : Event) (best : Option Directive) (d : Directive) :
    closer e best d = some d ∨ closer e best d = best ∧ (d.Fits e → best.isSome) := by
  rw [closer.eq_def]
  by_cases fits : d.Fits e
  · rw [if_pos fits]
    cases best with
    | none => exact .inl rfl
    | some b =>
      by_cases closer : b.Closer d
      · exact .inr ⟨if_pos closer, fun _ => rfl⟩
      · exact .inl (if_neg closer)
  · rw [if_neg fits]
    exact .inr ⟨rfl, fun now => absurd now fits⟩

/- The best so far is free in the induction. Once there is one, there always is. -/
theorem exists_foldl_closer (best : Option Directive) (h : best.isSome ∨ ∃ d ∈ f, d.Fits e) :
    ∃ d, f.foldl (closer e) best = some d ∧ (best = some d ∨ d ∈ f) := by
  induction f generalizing best with
  | nil =>
    rcases h with some_best | ⟨d, member, -⟩
    · obtain ⟨b, rfl⟩ := Option.isSome_iff_exists.mp some_best
      exact ⟨b, rfl, .inl rfl⟩
    · cases member
  | cons d f ih =>
    rw [List.foldl_cons]
    rcases closer_cases e best d with next | ⟨stays, some_best⟩
    · obtain ⟨b, found, origin⟩ := ih (some d) (.inl rfl)
      rw [next]
      refine ⟨b, found, .inr ?_⟩
      rcases origin with same | member
      · cases same
        exact List.mem_cons_self
      · exact List.mem_cons_of_mem d member
    · -- If the first directive fits, there is a best one already, and it stays.
      have some_fits : best.isSome ∨ ∃ d ∈ f, d.Fits e := by
        rcases h with now | ⟨d', member, fits⟩
        · exact .inl now
        · rcases List.mem_cons.mp member with rfl | later
          · exact .inl (some_best fits)
          · exact .inr ⟨d', later, fits⟩
      obtain ⟨b, found, origin⟩ := ih best some_fits
      rw [stays]
      exact ⟨b, found, origin.imp id (List.mem_cons_of_mem d)⟩

theorem exists_closest (h : ∃ d ∈ f, d.Fits e) : ∃ d ∈ f, f.closest e = some d := by
  obtain ⟨d, found, origin⟩ := exists_foldl_closer none (.inr h)
  rcases origin with start | member
  · cases start
  · exact ⟨d, member, closest_eq_foldl f e ▸ found⟩

/-- Directives of one threshold that speak of an event together let it through by its level. -/
theorem admits_iff_of_threshold {least : Level} (same : ∀ d ∈ f, d.threshold = some least)
    (some_fits : ∃ d ∈ f, d.Fits e) : f.Admits e ↔ e.level.rank ≤ least.rank := by
  obtain ⟨d, member, found⟩ := exists_closest some_fits
  simp only [Admits, found, Option.mem_def, Option.some.injEq, exists_eq_left', same d member]
  rfl

theorem forTarget_fits_iff {target : String} {threshold : Threshold} :
    (forTarget target threshold).Fits e ↔ target.toList <+: e.target.toList := by
  simp [forTarget, Directive.Fits]

theorem target_of_event (e : Event) : "hijri".toList <+: e.target.toList := by
  have parts : e.target = "hijri_date::convert" ∨ e.target = "hijri" := by
    cases e <;> simp [Event.target]
  rcases parts with library | commands
  · rw [library]
    decide
  · simp only [commands, List.prefix_rfl]

theorem admits_ofVerbosity_iff {verbosity : Nat} :
    (ofVerbosity verbosity).Admits e ↔ e.level.rank ≤ (thresholdOf verbosity).rank := by
  apply admits_iff_of_threshold
  · intro d member
    simp only [ofVerbosity, List.mem_cons, List.not_mem_nil, or_false] at member
    rcases member with rfl | rfl <;> rfl
  · -- The shorter of the two targets is a beginning of the longer, so its directive fits every event.
    exact ⟨_, List.mem_cons_self, forTarget_fits_iff.mpr (target_of_event e)⟩

/-- Without verbose flags no event is let through, because none is a warning or an error. -/
theorem select_quiet (events : List Event) : (ofVerbosity 0).select events = [] := by
  rw [select, List.filter_eq_nil_iff]
  intro e _
  rw [decide_eq_true_eq, admits_ofVerbosity_iff]
  cases e <;> simp [Event.level, Level.rank, thresholdOf]

end Calendrics.CommandLine.Filter
