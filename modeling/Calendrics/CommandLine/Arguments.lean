import Calendrics.CalendarText

/-! The arguments of the command line. Flags may stand before and after the command; after the
command the first argument that is none of its flags is the date, even if it begins with a hyphen,
and after `--` every argument is. -/
namespace Calendrics.CommandLine

inductive Command where
  | convert (direction : Direction) (date : String)
  | display (calendar : Calendar) (date : String)
  deriving DecidableEq

structure Invocation where
  verbosity : Nat
  json : Bool
  command : Command
  deriving DecidableEq

/-- Why there is nothing to run. -/
inductive Stop where
  | usage
  | help
  | version
  deriving DecidableEq

/-- The kinds of argument: `--`, a long option with an attached value, a cluster of short options,
and all else. A hyphen alone is a word. -/
inductive Argument where
  | escape
  | long (name : List Char) (value : Option (List Char))
  | cluster (letters : List Char)
  | word
  deriving DecidableEq

def Argument.ofChars : List Char → Argument
  | '-' :: '-' :: [] => .escape
  | '-' :: '-' :: cs =>
    .long (cs.takeWhile (· ≠ '='))
      (if '=' ∈ cs then some ((cs.dropWhile (· ≠ '=')).drop 1) else none)
  | '-' :: c :: cs => .cluster (c :: cs)
  | _ => .word

/-- The flags given so far at one level. -/
structure Flags where
  verbosity : Nat
  json : Bool
  deriving DecidableEq

def Flags.none : Flags := ⟨0, false⟩

def Flags.louder (f : Flags) : Flags := ⟨f.verbosity + 1, f.json⟩

/-- The JSON flag, which may be given once at each level. -/
def Flags.setJson (f : Flags) : Except Stop Flags :=
  if f.json then .error .usage else .ok ⟨f.verbosity, true⟩

/-- The flags of a command line: a count of verbose flags after the command stands in place of one
before it. -/
def Flags.within (outer inner : Flags) : Flags :=
  ⟨if inner.verbosity = 0 then outer.verbosity else inner.verbosity, outer.json || inner.json⟩

inductive Form where
  | convert (direction : Direction)
  | display
  deriving DecidableEq

def Form.ofName? (name : String) : Option Form :=
  if name = "to-hijri" then some (.convert .gregorianToHijri)
  else if name = "to-gregorian" then some (.convert .hijriToGregorian)
  else if name = "show" then some .display
  else none

def Form.knows (form : Form) (letter : Char) : Bool :=
  letter = 'v' || letter = 'h' || (form = .display && letter = 'c')

structure Reading where
  flags : Flags
  date : Option String
  calendar : Option Calendar
  deriving DecidableEq

def Reading.start : Reading := ⟨.none, none, none⟩

namespace Reading

def setDate (r : Reading) (text : String) : Except Stop Reading :=
  if r.date.isNone then .ok ⟨r.flags, some text, r.calendar⟩ else .error .usage

def setCalendar (r : Reading) (text : String) : Except Stop Reading :=
  if r.calendar.isNone then
    match Calendar.read text with
    | .ok c => .ok ⟨r.flags, r.date, some c⟩
    | .error _ => .error .usage
  else .error .usage

def setJson (r : Reading) : Except Stop Reading :=
  r.flags.setJson.map fun f => ⟨f, r.date, r.calendar⟩

def louder (r : Reading) : Reading := ⟨r.flags.louder, r.date, r.calendar⟩

/-- The command line of a command with its date; the calendar is Gregorian if none is given. -/
def finish (r : Reading) (form : Form) (outer : Flags) : Except Stop Invocation :=
  match r.date with
  | none => .error .usage
  | some date =>
    let flags := outer.within r.flags
    let command :=
      match form with
      | .convert direction => Command.convert direction date
      | .display => Command.display (r.calendar.getD .gregorian) date
    .ok ⟨flags.verbosity, flags.json, command⟩

/-- A cluster of short options, in order. The calendar takes the rest of the cluster as its value,
an equals sign in front of it aside; the second part says whether it still wants one. -/
def takeCluster (form : Form) (r : Reading) : List Char → Except Stop (Reading × Bool)
  | [] => .ok (r, false)
  | letter :: rest =>
    if letter = 'v' then takeCluster form r.louder rest
    else if letter = 'h' then .error .help
    else if letter = 'c' ∧ form = .display then
      match rest with
      | [] => .ok (r, true)
      | '=' :: value => (r.setCalendar (String.ofList value)).map (·, false)
      | value => (r.setCalendar (String.ofList value)).map (·, false)
    else .error .usage

/-- A long option; the second part says whether it still wants a value. An unknown one is the
date. -/
def takeLong (form : Form) (r : Reading) (argument : String) (name : List Char)
    (value : Option (List Char)) : Except Stop (Reading × Bool) :=
  if name = "verbose".toList then
    if value.isNone then .ok (r.louder, false) else .error .usage
  else if name = "json".toList then
    if value.isNone then r.setJson.map (·, false) else .error .usage
  else if name = "help".toList then
    if value.isNone then .error .help else .error .usage
  else if name = "calendar".toList ∧ form = .display then
    match value with
    | some text => (r.setCalendar (String.ofList text)).map (·, false)
    | none => .ok (r, true)
  else (r.setDate argument).map (·, false)

/-- One argument after the command. A cluster with a letter that the command does not know is the
date, as long as there is none. -/
def take (form : Form) (r : Reading) (argument : String) : Except Stop (Reading × Bool) :=
  match Argument.ofChars argument.toList with
  | .long name value => r.takeLong form argument name value
  | .cluster letters =>
    if r.date.isNone ∧ ¬ letters.all form.knows then (r.setDate argument).map (·, false)
    else r.takeCluster form letters
  | _ => (r.setDate argument).map (·, false)

def takeRest (r : Reading) : List String → Except Stop Reading
  | [] => .ok r
  | text :: rest => do
    let r ← r.setDate text
    r.takeRest rest

def takeAll (form : Form) (r : Reading) : List String → Except Stop Reading
  | [] => .ok r
  | [argument] => do
    if argument = "--" then return r
    let (r, wanting) ← r.take form argument
    if wanting then throw .usage
    return r
  | argument :: next :: rest => do
    if argument = "--" then r.takeRest (next :: rest)
    else
      let (r, wanting) ← r.take form argument
      if wanting then
        let r ← r.setCalendar next
        r.takeAll form rest
      else r.takeAll form (next :: rest)

end Reading

def Flags.takeCluster (f : Flags) : List Char → Except Stop Flags
  | [] => .ok f
  | letter :: rest =>
    if letter = 'v' then f.louder.takeCluster rest
    else if letter = 'h' then .error .help
    else if letter = 'V' then .error .version
    else .error .usage

def Flags.takeLong (f : Flags) (name : List Char) (value : Option (List Char)) :
    Except Stop Flags :=
  if value.isSome then .error .usage
  else if name = "verbose".toList then .ok f.louder
  else if name = "json".toList then f.setJson
  else if name = "help".toList then .error .help
  else if name = "version".toList then .error .version
  else .error .usage

def helpName : String := "help"

/-- The arguments of the command that explains the others: none, or the name of a command. -/
def explain : List String → Stop
  | [] => .help
  | [name] => if name = helpName ∨ (Form.ofName? name).isSome then .help else .usage
  | _ => .usage

def parseFrom (f : Flags) : List String → Except Stop Invocation
  | [] => .error .usage
  | argument :: rest =>
    match Argument.ofChars argument.toList with
    | .escape => .error .usage
    | .long name value => do
      let f ← f.takeLong name value
      parseFrom f rest
    | .cluster letters => do
      let f ← f.takeCluster letters
      parseFrom f rest
    | .word =>
      match Form.ofName? argument with
      | some form => do
        let r ← Reading.start.takeAll form rest
        r.finish form f
      | none => .error (if argument = helpName then explain rest else .usage)

def parse (arguments : List String) : Except Stop Invocation := parseFrom .none arguments

end Calendrics.CommandLine
