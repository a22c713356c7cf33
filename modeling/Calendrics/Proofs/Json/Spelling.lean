import Calendrics.Json.Value
import Mathlib.Data.List.TakeWhile

/-! How JSON is spelled: the grammar of texts, told by the value that a text stands for. Spaces may
stand around every part, a character of a string may be spelled by an escape, and a number that is
no integer may have any fraction and exponent. -/
namespace Calendrics.Json

theorem isPlain_iff {c : Char} : isPlain c ↔ c ≠ '"' ∧ c ≠ '\\' ∧ 0x20 ≤ c.toNat := by
  simp only [isPlain, Bool.and_eq_true, decide_eq_true_eq, and_assoc]

def Spaces (cs : List Char) : Prop := ∀ c ∈ cs, isSpace c

instance (cs : List Char) : Decidable (Spaces cs) :=
  decidable_of_iff (cs.all isSpace) List.all_eq_true

/-- One unit of a string: a character as it stands or by a short escape, or a code. -/
inductive UnitText : StringUnit → List Char → Prop where
  | plain {c : Char} (plain : isPlain c) : UnitText (.char c) [c]
  | escape {e c : Char} (short : shortEscape e = some c) : UnitText (.char c) ['\\', e]
  | code {a b c d : Char} {n : Nat} (hex : hexCode a b c d = some n) :
      UnitText (.code n) ['\\', 'u', a, b, c, d]

inductive UnitsText : Units → List Char → Prop where
  | nil : UnitsText [] []
  | cons {u : StringUnit} {us : Units} {word cs : List Char} (unit : UnitText u word)
      (rest : UnitsText us cs) : UnitsText (u :: us) (word ++ cs)

inductive StringText : Units → List Char → Prop where
  | quoted {us : Units} {cs : List Char} (units : UnitsText us cs) :
      StringText us ('"' :: (cs ++ ['"']))

inductive FractionText : List Char → Prop where
  | none : FractionText []
  | digits {ds : List Char} (run : Decimal.IsRun ds) : FractionText ('.' :: ds)

inductive ExponentText : List Char → Prop where
  | none : ExponentText []
  | unsigned {e : Char} {ds : List Char} (mark : e = 'e' ∨ e = 'E') (run : Decimal.IsRun ds) :
      ExponentText (e :: ds)
  | signed {e s : Char} {ds : List Char} (mark : e = 'e' ∨ e = 'E') (sign : s = '+' ∨ s = '-')
      (run : Decimal.IsRun ds) : ExponentText (e :: s :: ds)

/-- A value that one token stands for. Minus zero is a number, but no integer. -/
inductive AtomText : Value → List Char → Prop where
  | null : AtomText .null ['n', 'u', 'l', 'l']
  | true : AtomText (.bool true) ['t', 'r', 'u', 'e']
  | false : AtomText (.bool false) ['f', 'a', 'l', 's', 'e']
  | string {us : Units} {cs : List Char} (text : StringText us cs) : AtomText (.string us) cs
  | natural {ds : List Char} (run : Decimal.IsRun ds) (whole : IsWhole ds) :
      AtomText (.integer (Decimal.value ds)) ds
  | negative {ds : List Char} (run : Decimal.IsRun ds) (whole : IsWhole ds)
      (positive : Decimal.value ds ≠ 0) : AtomText (.integer (-(Decimal.value ds : Int))) ('-' :: ds)
  | minusZero : AtomText .number ['-', '0']
  | number {negative : Bool} {ds fraction exponent : List Char} (run : Decimal.IsRun ds)
      (whole : IsWhole ds) (fraction_text : FractionText fraction)
      (exponent_text : ExponentText exponent) (not_whole : fraction ++ exponent ≠ []) :
      AtomText .number ((if negative then ['-'] else []) ++ (ds ++ (fraction ++ exponent)))

/-- The parts of JSON text: a value, a value with the spaces around it, the items of an array, a
member of an object, and all its members. -/
inductive Part where
  | value (v : Value)
  | element (v : Value)
  | items (vs : List Value)
  | member (key : Units) (v : Value)
  | members (ms : List (Units × Value))

inductive Spells : Part → List Char → Prop where
  | atom {v : Value} {cs : List Char} (text : AtomText v cs) : Spells (.value v) cs
  | emptyArray {cs : List Char} (spaces : Spaces cs) :
      Spells (.value (.array [] true)) ('[' :: (cs ++ [']']))
  | array {vs : List Value} {cs : List Char} (items : Spells (.items vs) cs) :
      Spells (.value (.array vs true)) ('[' :: (cs ++ [']']))
  | emptyObject {cs : List Char} (spaces : Spaces cs) :
      Spells (.value (.object [] true)) ('\x7b' :: (cs ++ ['\x7d']))
  | object {ms : List (Units × Value)} {cs : List Char} (members : Spells (.members ms) cs) :
      Spells (.value (.object ms true)) ('\x7b' :: (cs ++ ['\x7d']))
  | element {v : Value} {before cs after : List Char} (spaces_before : Spaces before)
      (value : Spells (.value v) cs) (spaces_after : Spaces after) :
      Spells (.element v) (before ++ (cs ++ after))
  | lastItem {v : Value} {cs : List Char} (item : Spells (.element v) cs) : Spells (.items [v]) cs
  | item {v : Value} {vs : List Value} {cs more : List Char} (item : Spells (.element v) cs)
      (items : Spells (.items vs) more) : Spells (.items (v :: vs)) (cs ++ ',' :: more)
  | keyed {key : Units} {v : Value} {before name after cs : List Char}
      (spaces_before : Spaces before) (key_text : StringText key name) (spaces_after : Spaces after)
      (value : Spells (.element v) cs) :
      Spells (.member key v) (before ++ (name ++ (after ++ ':' :: cs)))
  | lastMember {key : Units} {v : Value} {cs : List Char} (member : Spells (.member key v) cs) :
      Spells (.members [(key, v)]) cs
  | member {key : Units} {v : Value} {ms : List (Units × Value)} {cs more : List Char}
      (member : Spells (.member key v) cs) (members : Spells (.members ms) more) :
      Spells (.members ((key, v) :: ms)) (cs ++ ',' :: more)

def IsText (v : Value) (text : String) : Prop := Spells (.element v) text.toList

end Calendrics.Json
