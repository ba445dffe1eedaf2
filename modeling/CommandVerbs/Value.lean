import CommandVerbs.Host.Address
import CommandVerbs.KeyMap

/-!
# Values of options and arguments

What a verb sees of its command line: a map from the names of options and arguments to their values.
Each reading function accepts the shapes that mean the same to a verb: a single text is a list of
one, and a list stands for its first text.
-/

namespace CommandVerbs

inductive Value where
  | text (value : String)
  | flag (value : Bool)
  | integer (value : Int)
  | hosts (value : List HostAddress)
  | list (value : List String)
  deriving DecidableEq, Repr, Inhabited

/-- The values by the names of their options and arguments. -/
abbrev Values := KeyMap Value

namespace Values

/-- A text, or the first text of a list. -/
def text? (values : Values) (dest : String) : Option String :=
  match values.get? dest with
  | some (.text s) => some s
  | some (.list items) => items.head?
  | _ => none

/-- Whether a flag is raised; an absent one is not. -/
def flag (values : Values) (dest : String) : Bool :=
  match values.get? dest with
  | some (.flag b) => b
  | _ => false

def integer? (values : Values) (dest : String) : Option Int :=
  match values.get? dest with
  | some (.integer n) => some n
  | _ => none

def hosts (values : Values) (dest : String) : List HostAddress :=
  match values.get? dest with
  | some (.hosts hosts) => hosts
  | _ => []

/-- The first address of an option. -/
def host? (values : Values) (dest : String) : Option HostAddress :=
  (values.hosts dest).head?

/-- The texts of a repeating argument; a single text is a list of one. -/
def list (values : Values) (dest : String) : List String :=
  match values.get? dest with
  | some (.list items) => items
  | some (.text s) => [s]
  | _ => []

end Values

/-- A command line that has been understood: the verb, its values, and what it passes on. -/
structure Invocation where
  verb : String
  values : Values := .empty
  passed : List String := []
  deriving Inhabited

end CommandVerbs
