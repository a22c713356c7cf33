import Calendrics.CommandLine.Report
import Calendrics.Proofs.CommandLine.Usage

/-! Each command can be called at every verbosity, in either output mode and with any text as its
date; what a call comes to depends on nothing else. Main statements: `parse_call`,
`respond_eq_call`. -/
namespace Calendrics

theorem Calendar.read_key (c : Calendar) : read c.key = .ok c := by
  cases c <;> decide

namespace CommandLine

def modeFlag (json : Bool) : List String := if json then ["--json"] else []

/-- The arguments of a call: verbose flags one by one, the output mode, the command with its
calendar if it has one, and the date after `--`. -/
def Command.call (verbosity : Nat) (json : Bool) : Command → List String
  | convert direction date =>
    List.replicate verbosity "-v" ++ modeFlag json ++ [Form.name (.convert direction), "--", date]
  | display calendar date =>
    List.replicate verbosity "-v" ++ modeFlag json ++ ["show", "-c", calendar.key, "--", date]

theorem Along.trans {α : Type} {step : α → List String → α → Prop} {a b c : α}
    {first rest : List String} (h : Along step a first b) (h' : Along step b rest c) :
    Along step a (first ++ rest) c := by
  induction h with
  | nil a => exact h'
  | cons one more ih =>
    rw [List.append_assoc]
    exact .cons one (ih h')

namespace Flags

theorem within_none (f : Flags) : f.within .none = f := by
  simp [within, none]

theorem along_letters (f : Flags) (n : Nat) :
    Along Step f (List.replicate n "-v") ⟨f.verbosity + n, f.json⟩ := by
  induction n generalizing f with
  | zero => exact .nil f
  | succ n ih =>
    have letter : Step f ["-v"] f.louder := .letters f 0
    have more := ih f.louder
    rw [louder, Nat.add_right_comm] at more
    exact .cons letter more

theorem along_modeFlag (verbosity : Nat) (json : Bool) :
    Along Step ⟨verbosity, false⟩ (modeFlag json) ⟨verbosity, json⟩ := by
  cases json with
  | false => exact .nil _
  | true => exact .cons (Step.json verbosity) (.nil _)

theorem along_call (verbosity : Nat) (json : Bool) :
    Along Step .none (List.replicate verbosity "-v" ++ modeFlag json) ⟨verbosity, json⟩ := by
  have letters := along_letters .none verbosity
  rw [none, Nat.zero_add] at letters
  exact letters.trans (along_modeFlag verbosity json)

end Flags

namespace Usage

def calling (verbosity : Nat) (json : Bool) (form : Form) : Usage :=
  { plain form with
    before := List.replicate verbosity "-v" ++ modeFlag json
    outer := ⟨verbosity, json⟩
    before_gives := Flags.along_call verbosity json }

def showing (verbosity : Nat) (json : Bool) (calendar : Calendar) : Usage where
  form := .display
  before := List.replicate verbosity "-v" ++ modeFlag json
  outer := ⟨verbosity, json⟩
  after := ["-c", calendar.key]
  reading := ⟨.none, none, some calendar⟩
  before_gives := Flags.along_call verbosity json
  after_gives := .cons (Reading.Step.calendar .none none (.short calendar.key calendar.read_key)) (.nil _)

end Usage

theorem parse_call (command : Command) (verbosity : Nat) (json : Bool) :
    parse (command.call verbosity json) = .ok ⟨verbosity, json, command⟩ := by
  cases command with
  | convert direction date =>
    let u := Usage.calling verbosity json (.convert direction)
    have flags : u.flags = ⟨verbosity, json⟩ := Flags.within_none _
    have called := u.parse_arguments date
    rw [Usage.invocation, flags] at called
    exact called
  | display calendar date =>
    let u := Usage.showing verbosity json calendar
    have flags : u.flags = ⟨verbosity, json⟩ := Flags.within_none _
    have called := u.parse_arguments date
    rw [Usage.invocation, flags] at called
    exact called

theorem respond_call (command : Command) (verbosity : Nat) (json : Bool) (log : Option String) :
    respond (command.call verbosity json) log =
      .ran (command.run json) (logFilter log verbosity) := by
  rw [respond, parse_call]

theorem respond_eq_call {arguments : List String} {i : Invocation} (h : parse arguments = .ok i)
    (log : Option String) : respond arguments log = respond (i.command.call i.verbosity i.json) log := by
  rw [respond_call, respond, h]

end CommandLine

end Calendrics
