import Calendrics.Json.Writer
import Calendrics.Proofs.DatePrinting
import Calendrics.Proofs.Json.Spelling

/-! What is written is JSON: the written form of every value of the library is a JSON text of a
value, with no spaces and no escapes. -/
namespace Calendrics

namespace Json

theorem isPlain_of_isDigit {c : Char} (h : c.isDigit) : isPlain c := by
  have digit := Decimal.isDigit_bounds h
  refine isPlain_iff.mpr ⟨?_, ?_, by omega⟩
  · rintro rfl
    revert h
    decide
  · rintro rfl
    revert h
    decide

/-- A text in which every character stands for itself. -/
def Unescaped (s : String) : Prop := ∀ c ∈ s.toList, isPlain c

instance (s : String) : Decidable (Unescaped s) :=
  decidable_of_iff (s.toList.all isPlain) List.all_eq_true

def plainUnits (s : String) : Units := s.toList.map .char

def plainString (s : String) : Value := .string (plainUnits s)

theorem characters_plain (cs : List Char) : characters (cs.map .char) = some cs := by
  induction cs with
  | nil => rfl
  | cons c cs ih =>
    rw [List.map_cons, characters, ih]
    rfl

section

variable {s : String} {v : Value} {text : String}

theorem unitsText_plain {cs : List Char} (plain : ∀ c ∈ cs, isPlain c) :
    UnitsText (cs.map .char) cs := by
  induction cs with
  | nil => exact .nil
  | cons c cs ih =>
    have rest := ih fun d hd => plain d (List.mem_cons_of_mem c hd)
    exact .cons (.plain (plain c List.mem_cons_self)) rest

theorem stringText_string (plain : Unescaped s) :
    StringText (plainUnits s) (string s).toList := by
  have quotes : (string s).toList = '"' :: (s.toList ++ ['"']) := by
    simp [string]
  rw [quotes]
  exact .quoted (unitsText_plain plain)

theorem spaces_nil : Spaces [] := List.forall_mem_nil _

theorem isText_of_atom (h : AtomText v text.toList) : IsText v text := by
  have alone := Spells.element spaces_nil (.atom h) spaces_nil
  rw [List.append_nil] at alone
  exact alone

theorem isText_string (plain : Unescaped s) : IsText (plainString s) (string s) :=
  isText_of_atom (.string (stringText_string plain))

/- Digits have no leading zero, but for zero itself. -/
theorem isWhole_digits (n : Nat) : IsWhole (Decimal.digits n) := by
  intro zero
  obtain ⟨rest, opens⟩ := List.head?_eq_some_iff.mp zero
  cases rest with
  | nil => exact opens
  | cons c rest =>
    have longer : 1 < (Decimal.digits n).length := by
      rw [opens]
      exact Nat.succ_lt_succ (Nat.succ_pos _)
    exact absurd zero (Decimal.head_digits_ne_zero longer)

theorem isText_integer (n : Int) : IsText (.integer n) (Decimal.text n) := by
  apply isText_of_atom
  have run := Decimal.isRun_digits n.natAbs
  have whole := isWhole_digits n.natAbs
  have value := Decimal.value_digits n.natAbs
  rw [Decimal.text, String.toList_ofList, Decimal.ofInt]
  by_cases negative : n < 0
  · have text := AtomText.negative run whole (by omega)
    rw [value] at text
    have same : -(n.natAbs : Int) = n := by omega
    rw [same] at text
    rwa [if_pos negative]
  · have text := AtomText.natural run whole
    have same : (n.natAbs : Int) = n := by omega
    rw [value, same] at text
    rwa [if_neg negative]

def IsMember (m : Units × Value) (text : String) : Prop := Spells (.member m.1 m.2) text.toList

theorem isMember_member (plain : Unescaped s) (h : IsText v text) :
    IsMember (plainUnits s, v) (member s text) := by
  have keyed := Spells.keyed spaces_nil (stringText_string plain) spaces_nil h
  have parts : (member s text).toList = (string s).toList ++ ':' :: text.toList := by
    simp [member]
  rw [IsMember, parts]
  exact keyed

theorem spells_members {ms : List (Units × Value)} {texts : List String}
    (h : List.Forall₂ IsMember ms texts) (some_member : ms ≠ []) :
    Spells (.members ms) (",".intercalate texts).toList := by
  induction h with
  | nil => exact absurd rfl some_member
  | @cons m text ms texts first rest ih =>
    cases rest with
    | nil =>
      rw [String.intercalate_singleton]
      exact .lastMember first
    | @cons second next ms texts _ _ =>
      have others := ih (List.cons_ne_nil _ _)
      have parts : (",".intercalate (text :: next :: texts)).toList =
          text.toList ++ ',' :: (",".intercalate (next :: texts)).toList := by
        simp [String.intercalate_cons_cons]
      rw [parts]
      exact .member first others

theorem isText_object {ms : List (Units × Value)} {texts : List String}
    (h : List.Forall₂ IsMember ms texts) (some_member : ms ≠ []) :
    IsText (.object ms true) (object texts) := by
  have members := spells_members h some_member
  have alone := Spells.element spaces_nil (.object members) spaces_nil
  have braces : (object texts).toList = '\x7b' :: ((",".intercalate texts).toList ++ ['\x7d']) := by
    simp [object]
  rw [IsText, braces]
  rwa [List.append_nil] at alone

end

end Json

end Calendrics
