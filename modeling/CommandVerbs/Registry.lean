import CommandVerbs.KeyMap
import CommandVerbs.Verb.Declaration

/-!
# Registries

The verbs of a program, each under a name of its own, and the names in the order of their
registration: the first verb of a name stays, and a later one is refused.
-/

namespace CommandVerbs

/-- The program that the verbs belong to. -/
structure Program where
  name : String
  version : String
  description : String
  deriving DecidableEq, Repr, Inhabited

/-- A registered verb, by its kind. -/
inductive Entry where
  | bare (verb : Verb)
  | command (command : Command)
  | multi (command : MultiCommand)

namespace Entry

def verb : Entry → Verb
  | .bare verb => verb
  | .command c => c.verb
  | .multi m => m.command.verb

def name (e : Entry) : String :=
  e.verb.name

def withVerb (e : Entry) (verb : Verb) : Entry :=
  match e with
  | .bare _ => .bare verb
  | .command c => .command { c with verb }
  | .multi m => .multi { m with command := { m.command with verb } }

/-- The name of the verb's kind. -/
def kind : Entry → String
  | .bare _ => "Verb"
  | .command _ => "CommandVerb"
  | .multi _ => "MultiVerb"

/-- Whether the verb has a body. -/
def hasBody : Entry → Bool
  | .bare _ => false
  | .command _ | .multi _ => true

/-- Runs the verb, with at most `depth` runs of a modifier inside one another. -/
def execute (depth : Nat) : Entry → Script Unit
  | .bare verb => .fail (.unimplemented "Verb" verb.name)
  | .command c => c.execute
  | .multi m => m.execute depth

end Entry

structure Registry where
  verbs : KeyMap Entry := .empty
  /-- the names in the order of registration -/
  order : List String := []

namespace Registry

instance : Inhabited Registry := ⟨{}⟩

def get? (r : Registry) (name : String) : Option Entry :=
  r.verbs.get? name

def contains (r : Registry) (name : String) : Bool :=
  r.verbs.contains name

/-- The names in the order of registration. -/
def names (r : Registry) : List String :=
  r.order

/-- The names in ascending order. -/
def sortedNames (r : Registry) : List String :=
  r.order.mergeSort fun a b => !(b < a)

/-- The verbs in the order of registration. -/
def entries (r : Registry) : List Entry :=
  r.order.filterMap r.get?

def size (r : Registry) : Nat :=
  r.verbs.size

/-- Registers a verb, unless its name is taken. -/
def add (r : Registry) (e : Entry) : Except DeclarationFault Registry :=
  if r.contains e.name then .error (.duplicateVerb e.name)
  else .ok { verbs := r.verbs.insert e.name e, order := r.order ++ [e.name] }

/-- Puts a verb in the place of the one of its name. -/
def update (r : Registry) (verb : Verb) : Registry :=
  match r.get? verb.name with
  | none => r
  | some e => { r with verbs := r.verbs.insert verb.name (e.withVerb verb) }

/-- A change of a registry that bundles have put lines into the event log for. -/
structure Change where
  registry : Registry
  events : List String := []
  result : Except DeclarationFault Unit

/-- Registers what an attempt to make a verb has led to. -/
def addMade (r : Registry) (made : Except DeclarationFault (Entry × List String)) : Change :=
  match made with
  | .error fault => { registry := r, result := .error fault }
  | .ok (e, events) =>
    match r.add e with
    | .error fault => { registry := r, events, result := .error fault }
    | .ok registry => { registry, events, result := .ok () }

/-- Declares and registers a command. -/
def command (r : Registry) (name : String) (body : Body) (d : Declaration) : Change :=
  let (c, events) := Command.declare name body d
  r.addMade (.ok (.command c, events))

/-- Declares and registers a command with modifiers. -/
def multiCommand (r : Registry) (name : String) (body : Body) (d : Declaration) : Change :=
  r.addMade ((MultiCommand.declare name body d).map fun (m, events) => (.multi m, events))

/-- Looks through the verbs of names in order, up to the first that is refused. A look may carry out
what is due for a verb. -/
def visit {α : Type} (look : Verb → Verb × Except DeclarationFault α) (verbs : KeyMap Entry) :
    List String → KeyMap Entry × Except DeclarationFault (List α)
  | [] => (verbs, .ok [])
  | name :: rest =>
    match verbs.get? name with
    | none => visit look verbs rest
    | some e =>
      match look e.verb with
      | (verb, .error fault) => (verbs.insert name (e.withVerb verb), .error fault)
      | (verb, .ok value) =>
        let (verbs, values) := visit look (verbs.insert name (e.withVerb verb)) rest
        (verbs, values.map (value :: ·))

/-- Validates every verb. -/
def validateAll (r : Registry) : Registry × Except DeclarationFault Unit :=
  let (verbs, results) := visit Verb.validate r.verbs r.order
  ({ r with verbs }, results.map fun _ => ())

/-- The names quoted for inspection. -/
def inspected (r : Registry) : String :=
  "VerbRegistry \x7b verbs: [" ++ ", ".intercalate (r.names.map Text.quoted) ++ "] \x7d"

end Registry

end CommandVerbs
