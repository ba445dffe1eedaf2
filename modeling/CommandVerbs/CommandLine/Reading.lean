import CommandVerbs.CommandLine.Parser
import CommandVerbs.CommandLine.WordForm
import CommandVerbs.Text.Decimal

/-!
# Reading a command line

A parser that reads a command line word by word. A word that starts with dashes is a switch or several
short ones, any other word is the value of the switch before it or of a positional argument; after a
word of two dashes all are positional. Values are collected until something else begins, and only then
checked and recorded, so a mistake in them is noticed there. It is one of the parsers that the program
can be run with.
-/

namespace CommandVerbs

/-- What values are collected for. -/
inductive Slot where
  | switch (s : Switch)
  | positional (p : Positional)
  deriving DecidableEq, Repr, Inhabited

def Slot.id : Slot → String
  | .switch s => s.id
  | .positional p => p.id

/-- What has been read of a level. -/
structure Reading where
  matched : Matches := {}
  /-- values that are not recorded yet, in the order given -/
  pending : Option (Slot × List String) := none
  /-- the index of the next positional argument -/
  position : Nat := 0
  /-- only positional arguments follow -/
  trailing : Bool := false
  deriving Inhabited

namespace Reading

/-- The switch that still waits for its value. -/
def waiting? (r : Reading) : Option Switch :=
  match r.pending with
  | some (.switch s, []) => some s
  | _ => none

/-- Whether a number of values is allowed. -/
def checkCount (id : String) (min : Nat) (max : Option Nat) (count : Nat) :
    Except UsageFault Unit :=
  if count = 0 then .error (.missingValue id)
  else if max = some min then
    if count = min then .ok () else .error (.otherValueCount id)
  else if count < min then .error (.tooFewValues id)
  else if max.any (· < count) then .error (.tooManyValues id)
  else .ok ()

/-- The matches with the value of a switch. -/
def recordSwitch (s : Switch) (values : List String) (m : Matches) : Except UsageFault Matches :=
  match s.action, values with
  | .takeInteger, value :: _ =>
    match Text.int64? value with
    | some n => .ok { m with integers := m.integers.insert s.id n }
    | none => .error (.notInteger s.id value)
  | .takePath, "" :: _ => .error (.missingValue s.id)
  | .takePath, _ | .takeText, _ => .ok { m with texts := m.texts.insert s.id values }
  | _, _ => .ok { m with raised := s.id :: m.raised }

/-- The matches with what a slot has collected. -/
def record (slot : Slot) (values : List String) (m : Matches) : Except UsageFault Matches := do
  match slot with
  | .switch s =>
    if s.takesValue then checkCount s.id 1 (some 1) values.length
    if m.contains s.id then throw (.repeated s.id)
    recordSwitch s values m
  | .positional p =>
    checkCount p.id p.min p.max values.length
    if m.contains p.id then throw (.repeated p.id)
    return { m with texts := m.texts.insert p.id values }

/-- Records what a slot has collected. -/
def take (r : Reading) (slot : Slot) (values : List String) : Except Stop Reading :=
  match record slot values r.matched with
  | .error fault => .error (.refused fault)
  | .ok matched => .ok { r with matched }

/-- Records what is pending. -/
def settle (r : Reading) : Except Stop Reading :=
  match r.pending with
  | none => .ok r
  | some (slot, values) => { r with pending := none }.take slot values

end Reading

namespace Level

/-- Whether the next positional argument takes everything that follows. -/
def restIsNext (l : Level) (r : Reading) : Bool :=
  (l.positionals[r.position]?).any (·.takesRest)

/-- Acts on a switch without a value. `long` says that its long flag was used. -/
def act (l : Level) (s : Switch) (long : Bool) (r : Reading) : Except Stop Reading := do
  let r ← r.settle
  match s.action with
  | .showHelp => .error (.help l.verb long)
  | .showVersion => .error .version
  | _ => r.take (.switch s) []

/-- Acts on a switch with the value that is attached to it. -/
def attach (s : Switch) (value : String) (r : Reading) : Except Stop Reading := do
  (← r.settle).take (.switch s) [value]

/-- Lets a switch wait for its value. -/
def await (s : Switch) (r : Reading) : Except Stop Reading := do
  return { ← r.settle with pending := some (.switch s, []) }

/-- Reads a long flag. -/
def readLong (l : Level) (s : Switch) (value : Option String) (r : Reading) : Except Stop Reading :=
  match s.takesValue, value with
  | true, some value => attach s value r
  | true, none => await s r
  | false, some _ => .error (.refused (.tooManyValues s.id))
  | false, none => l.act s true r

/-- Reads short flags. What follows a flag that takes a value is the value, perhaps after an equals
sign. -/
def readShort (l : Level) : List Char → Reading → Except Stop Reading
  | [], r => .ok r
  | flag :: rest, r =>
    match l.byShort? flag with
    | none => .error (.refused (.unknownArgument ("-" ++ flag.toString)))
    | some s =>
      if s.takesValue then
        match rest with
        | [] => await s r
        | '=' :: value => attach s (String.ofList value) r
        | value => attach s (String.ofList value) r
      else
        match l.act s false r with
        | .error stop => .error stop
        | .ok r => readShort l rest r

/-- Whether a word is left to the last positional argument although the one before it could take it.
If an argument repeats that is not the last, this is so for the last word before the end or a flag. -/
def leavesLast (l : Level) (r : Reading) (following : List String) : Bool :=
  r.position + 2 == l.positionals.length && l.positionals.dropLast.any (·.repeats) &&
    (match following with
    | [] => true
    | word :: _ => (WordForm.of word).isFlag)

/-- What is wrong with a word that nothing takes. -/
def unexpected (l : Level) (trailing : Bool) (word : String) : UsageFault :=
  if l.verbs.isEmpty || (trailing && l.verbs.contains word) then .unknownArgument word
  else .unknownVerb word

/-- Reads a word as the value of a positional argument, before the words that follow it. -/
def readPositional (l : Level) (word : String) (following : List String) (r : Reading) :
    Except Stop Reading :=
  let position := if l.leavesLast r following then r.position + 1 else r.position
  match l.positionals[position]? with
  | none => .error (.refused (l.unexpected r.trailing word))
  | some p =>
    let r := { r with position, trailing := r.trailing || p.takesRest }
    match r.pending with
    | some (.positional q, values) =>
      if q.id = p.id ∧ p.repeats then
        .ok { r with pending := some (.positional q, values ++ [word]) }
      else start p r
    | _ => start p r
where
  /-- Starts to collect the values of an argument. -/
  start (p : Positional) (r : Reading) : Except Stop Reading := do
    let r ← r.settle
    return { r with
      pending := some (.positional p, [word])
      position := if p.repeats then r.position else r.position + 1 }

/-- Reads a word as a value: of the switch that waits for one, else of a positional argument. -/
def readValue (l : Level) (word : String) (following : List String) (r : Reading) :
    Except Stop Reading :=
  match r.waiting? with
  | some s => .ok { r with pending := some (.switch s, [word]) }
  | none => l.readPositional word following r

/-- Reads a word. -/
def readWord (l : Level) (word : String) (following : List String) (r : Reading) :
    Except Stop Reading :=
  if r.trailing then l.readPositional word following r
  else match WordForm.of word with
    | .plain => l.readValue word following r
    | .separator => .ok { r with trailing := true }
    | .long flag value =>
      match l.byLong? flag with
      | some s => l.readLong s value r
      | none =>
        if l.restIsNext r then l.readValue word following r
        else .error (.refused (.unknownArgument word))
    | .short flags =>
      if l.restIsNext r && flags.any fun flag => (l.byShort? flag).isNone then
        l.readValue word following r
      else l.readShort flags r

/-- Reads words in order. -/
def readWords (l : Level) : List String → Reading → Except Stop Reading
  | [], r => .ok r
  | word :: rest, r =>
    match l.readWord word rest r with
    | .error stop => .error stop
    | .ok r => readWords l rest r

/-- Ends the reading of a level: what is pending is recorded, a configuration file that the
environment names has to have a name, and the required arguments have to be there. -/
def finish (l : Level) (configured : Option String) (r : Reading) : Except Stop Matches := do
  let r ← r.settle
  if configured = some "" ∧ l.switches.contains Switch.config ∧
      !r.matched.contains Switch.config.id then
    .error (.refused (.missingValue Switch.config.id))
  else
    match l.positionals.find? fun p => p.required && !r.matched.contains p.id with
    | some p => .error (.refused (.missingArgument p.id))
    | none => return r.matched

end Level

namespace Grammar

/-- Reads words up to the end or the name of a verb, and what follows that name as its own. -/
def readRoot (g : Grammar) :
    List String → Reading → Except Stop (Reading × Option (String × Matches))
  | [], r => .ok (r, none)
  | word :: rest, r =>
    match if r.trailing || r.waiting?.isSome then none else g.verb? word with
    | some verb => do
      let inner ← verb.level.readWords rest {}
      return (r, some (verb.name, ← verb.level.finish g.configured inner))
    | none =>
      match g.root.readWord word rest r with
      | .error stop => .error stop
      | .ok r => readRoot g rest r

/-- Puts the levels together: what holds at either level holds for both, and of two configuration
files the one named last counts. -/
def combine (g : Grammar) (outer : Matches) (verb : Option (String × Matches)) : CommandLine :=
  let inner := (verb.map (·.2)).getD {}
  { verb := verb.map fun (name, m) =>
      (name, if outer.raised.contains Switch.verbose.id then
          { m with raised := Switch.verbose.id :: m.raised }
        else m)
    verbose := outer.raised.contains Switch.verbose.id || inner.raised.contains Switch.verbose.id
    config := ((inner.text? Switch.config.id).or (outer.text? Switch.config.id)).or g.configured }

/-- Reads a command line, given without the name of the program. -/
def read (g : Grammar) (words : List String) : Except Stop CommandLine := do
  let (outer, verb) ← g.readRoot words {}
  return g.combine (← g.root.finish g.configured outer) verb

end Grammar

end CommandVerbs
