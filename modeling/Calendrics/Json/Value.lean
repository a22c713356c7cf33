import Calendrics.Json.Token

/-! JSON values, built from tokens with a stack of open containers. A container that the text breaks
off or breaks is kept with what it holds so far and marked incomplete, so that a reader can judge
the values before the break before it meets the break. -/
namespace Calendrics.Json

/-- The units of a string as they stand in the text. -/
abbrev Units := List StringUnit

/-- A JSON value. Of a number that is no integer only the kind is kept. -/
inductive Value where
  | null
  | bool (b : Bool)
  | integer (n : Int)
  | number
  | string (units : Units)
  | array (items : List Value) (complete : Bool)
  | object (members : List (Units × Value)) (complete : Bool)

/-- A container that is not yet closed, its latest part first. -/
inductive Frame where
  | items (before : List Value)
  | members (before : List (Units × Value))
  | member (before : List (Units × Value)) (key : Units)

inductive Mode where
  | value
  | firstItem
  | firstKey
  | key
  | colon
  | separator

/-- The container that a frame becomes when the text breaks inside it. -/
def Frame.broken (inner : Option Value) : Frame → Value
  | items before => .array (inner.toList ++ before).reverse false
  | members before => .object before.reverse false
  | member before key => .object ((inner.map (key, ·)).toList ++ before).reverse false

/-- The outermost of the open containers, all of them broken. -/
def abandon (frames : List Frame) : Option Value :=
  frames.foldl (fun inner f => some (f.broken inner)) none

inductive Progress where
  | more (mode : Mode) (frames : List Frame)
  | done (value : Value)
  | broken

/-- Hands a finished value to the innermost open container. -/
def deliver (v : Value) : List Frame → Progress
  | [] => .done v
  | .items before :: frames => .more .separator (.items (v :: before) :: frames)
  | .member before key :: frames => .more .separator (.members ((key, v) :: before) :: frames)
  | .members _ :: _ => .broken

def beginValue (frames : List Frame) : Token → Progress
  | .null => deliver .null frames
  | .bool b => deliver (.bool b) frames
  | .integer n => deliver (.integer n) frames
  | .number => deliver .number frames
  | .string units => deliver (.string units) frames
  | .openArray => .more .firstItem (.items [] :: frames)
  | .openObject => .more .firstKey (.members [] :: frames)
  | _ => .broken

def beginMember : List Frame → Token → Progress
  | .members before :: frames, .string key => .more .colon (.member before key :: frames)
  | _, _ => .broken

/-- The end of the innermost container, if the token is its closing bracket. -/
def close : List Frame → Token → Progress
  | .items before :: frames, .closeArray => deliver (.array before.reverse true) frames
  | .members before :: frames, .closeObject => deliver (.object before.reverse true) frames
  | _, _ => .broken

def step (mode : Mode) (frames : List Frame) (t : Token) : Progress :=
  match mode with
  | .value => beginValue frames t
  | .firstItem => if t = .closeArray then close frames t else beginValue frames t
  | .firstKey => if t = .closeObject then close frames t else beginMember frames t
  | .key => beginMember frames t
  | .colon => if t = .colon then .more .value frames else .broken
  | .separator =>
    if t = .comma then
      match frames with
      | .items _ :: _ => .more .value frames
      | _ => .more .key frames
    else close frames t

/-- The value that tokens begin with, as far as they go, and the tokens after it. -/
def build (mode : Mode) (frames : List Frame) : List Token → Option Value × List Token
  | [] => (abandon frames, [])
  | t :: ts =>
    match step mode frames t with
    | .more mode frames => build mode frames ts
    | .done v => (some v, ts)
    | .broken => (abandon frames, ts)

/-- The characters of a string, unless it holds half of a surrogate pair. -/
def characters : Units → Option (List Char)
  | [] => some []
  | .char c :: us => (characters us).map (c :: ·)
  | .code high :: .code low :: us =>
    if 0xd800 ≤ high ∧ high ≤ 0xdbff then
      if 0xdc00 ≤ low ∧ low ≤ 0xdfff then
        (characters us).map
          (Char.ofNat (0x10000 + (high - 0xd800) * 0x400 + (low - 0xdc00)) :: ·)
      else none
    else if 0xdc00 ≤ high ∧ high ≤ 0xdfff then none
    else (characters (.code low :: us)).map (Char.ofNat high :: ·)
  | .code n :: us =>
    if 0xd800 ≤ n ∧ n ≤ 0xdfff then none else (characters us).map (Char.ofNat n :: ·)

end Calendrics.Json
