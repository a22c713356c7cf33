import Calendrics.CommandLine.Directive

/-! Which events are written to the log. A filter is a list of directives, and the one that fits an
event most closely decides. A filter comes from the verbosity, or from a text of directives between
commas; a text with one bad directive is no filter. -/
namespace Calendrics.CommandLine

namespace Directive

def Fits (d : Directive) (e : Event) : Prop :=
  d.inSpan = false ∧ (∀ t ∈ d.target, t <+: e.target.toList) ∧
    ∀ f ∈ d.fields, f = "message" ∨ f ∈ e.fields.map (·.1)

instance (d : Directive) (e : Event) : Decidable (d.Fits e) :=
  inferInstanceAs (Decidable (_ ∧ _ ∧ _))

/-- The length of the target, a directive without one coming before the empty target. -/
def reach (d : Directive) : Nat :=
  match d.target with
  | none => 0
  | some t => t.length + 1

/-- Whether a directive fits more closely than another that also fits: by a longer target, then by
more fields, then by the later names of fields. -/
def Closer (a b : Directive) : Prop :=
  b.reach < a.reach ∨ (b.reach = a.reach ∧
    (b.fields.length < a.fields.length ∨
      (b.fields.length = a.fields.length ∧ b.fields < a.fields)))

instance (a b : Directive) : Decidable (a.Closer b) := inferInstanceAs (Decidable (_ ∨ _))

end Directive

abbrev Filter := List Directive

namespace Filter

/-- The closest of the directives that fit an event; of equally close ones the last. -/
def closest (f : Filter) (e : Event) : Option Directive :=
  f.foldl (fun best d =>
    if d.Fits e then
      match best with
      | some b => if b.Closer d then some b else some d
      | none => some d
    else best) none

def Admits (f : Filter) (e : Event) : Prop :=
  ∃ d ∈ f.closest e, Threshold.Admits d.threshold e.level

instance (f : Filter) (e : Event) : Decidable (Admits f e) :=
  inferInstanceAs (Decidable (∃ d ∈ f.closest e, Threshold.Admits d.threshold e.level))

def select (f : Filter) (events : List Event) : List Event :=
  events.filter fun e => f.Admits e

def thresholdOf : Nat → Level
  | 0 => .warn
  | 1 => .info
  | 2 => .debug
  | _ => .trace

def forTarget (target : String) (threshold : Threshold) : Directive :=
  ⟨some target.toList, [], false, threshold⟩

def ofVerbosity (verbosity : Nat) : Filter :=
  [forTarget "hijri" (thresholdOf verbosity), forTarget "hijri_date" (thresholdOf verbosity)]

/-- The filter of a text without directives. -/
def errorsOnly : Filter := [⟨none, [], false, some .error⟩]

end Filter

/-- The filter of a text of directives, if none of them is bad. -/
def Filter.read (text : String) : Option Filter := do
  let pieces := (text.toList.splitOn ',').filter (· ≠ [])
  if pieces = [] then return Filter.errorsOnly
  pieces.mapM Directive.read

end Calendrics.CommandLine
