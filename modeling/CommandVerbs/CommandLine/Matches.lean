import CommandVerbs.CommandLine.Grammar

/-!
# From matches to an invocation

Reading a command line leaves matches: the flags that are raised and the values that are given.
Together with the defaults of options and the values that the declaration supplies they are what a
verb sees. Where two of them share a name, the later one counts: options, supplied values, open
arguments.
-/

namespace CommandVerbs

structure Matches where
  raised : List String := []
  integers : KeyMap Int := .empty
  texts : KeyMap (List String) := .empty
  deriving Inhabited

namespace Matches

/-- Whether something is given under a name. -/
def contains (m : Matches) (id : String) : Bool :=
  m.raised.contains id || m.integers.contains id || m.texts.contains id

/-- The first text given under a name. -/
def text? (m : Matches) (id : String) : Option String :=
  (m.texts.get? id).bind List.head?

/-- The text by which the addresses of an option are known if none is given. -/
def defaultText? (o : OptionSpec) : Option String :=
  match o.default with
  | some (.text s) => some s
  | _ => none

/-- The value of an option: what is given, else its default. -/
def valueOf? (m : Matches) (o : OptionSpec) : Except OptionFault (Option Value) :=
  match o.kind with
  | .flag => .ok (some (.flag (m.raised.contains o.dest || o.default == some (.flag true))))
  | .integer => .ok (((m.integers.get? o.dest).map Value.integer).or o.default)
  | .text => .ok (((m.text? o.dest).map Value.text).or o.default)
  | .hosts min max defaultPort =>
    match (m.text? o.dest).or (defaultText? o) with
    | none => .ok none
    | some text =>
      (HostAddress.parseList o.dest text min max defaultPort).map fun hosts => some (.hosts hosts)

/-- Adds the values of options in order, up to one whose text is refused. -/
def addOptions (m : Matches) : List OptionSpec → Values → Except OptionFault Values
  | [], values => .ok values
  | o :: rest, values =>
    match m.valueOf? o with
    | .error fault => .error fault
    | .ok none => addOptions m rest values
    | .ok (some value) => addOptions m rest (values.insert o.dest value)

/-- Adds the values that the declaration supplies for the leading arguments. -/
def addSupplied (arguments : List ArgumentSpec) (supplied : List String) (values : Values) :
    Values :=
  (arguments.zip supplied).foldl (fun values (a, text) => values.insert a.name (.text text)) values

/-- The value of an argument: a text if it takes one value, else a list. -/
def argumentOf? (m : Matches) (a : ArgumentSpec) : Option Value :=
  (m.texts.get? a.name).bind fun texts =>
    if a.max = some 1 then texts.head?.map Value.text else some (.list texts)

/-- Adds the values of open arguments in order. -/
def addArguments (m : Matches) (arguments : List ArgumentSpec) (values : Values) : Values :=
  arguments.foldl
    (fun values a =>
      match m.argumentOf? a with
      | none => values
      | some value => values.insert a.name value)
    values

/-- What is passed on. -/
def passed (m : Matches) : List String :=
  (m.texts.get? Positional.passedOn.id).getD []

end Matches

namespace Verb

/-- What a verb sees of a command line that has left the given matches. -/
def invocation (v : Verb) (m : Matches) : Verb × Except Fault Invocation :=
  let sorted := v.reviewOptions
  match m.addOptions sorted.options .empty with
  | .error fault => (sorted, .error (.option fault))
  | .ok values =>
    match sorted.readArguments with
    | (checked, .error fault) => (checked, .error (.declaration fault))
    | (checked, .ok arguments) =>
      (checked, .ok
        { verb := checked.name
          values := m.addArguments (arguments.drop checked.supplied.length)
            (Matches.addSupplied arguments checked.supplied values)
          passed := if checked.attributes.passthrough then m.passed else [] })

end Verb

end CommandVerbs
