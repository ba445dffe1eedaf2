import CommandVerbs.Text.LetterCase
import CommandVerbs.Value

/-!
# Options

An option is known by its destination, the name under which a verb finds its value; how its flag is
spelled is a matter of display. Options are listed by their display name in lower case, then by
destination.
-/

namespace CommandVerbs

/-- What an option takes. -/
inductive OptionKind where
  | text
  /-- present or not, without a value -/
  | flag
  | integer
  /-- a list of between `min` and `max` addresses, with a port for those that have none -/
  | hosts (min max : Nat) (defaultPort : Option UInt16)
  deriving DecidableEq, Repr, Inhabited

/-- Whether the option consumes a value on the command line. -/
def OptionKind.takesValue : OptionKind → Bool
  | .flag => false
  | _ => true

/-- A declared option. -/
structure OptionSpec where
  short : Option Char
  /-- the long flag without its dashes -/
  long : Option String
  dest : String
  help : Option String
  kind : OptionKind
  default : Option Value := none
  deriving DecidableEq, Repr, Inhabited

namespace OptionSpec

/-- Declares an option; the dashes before a long flag are dropped. -/
def declare (short : Option Char) (long : Option String) (dest : String) (help : Option String)
    (kind : OptionKind) (default : Option Value) : OptionSpec :=
  { short, dest, help, kind, default
    long := long.map fun flag => String.ofList (flag.toList.dropWhile (· == '-')) }

/-- An option without help is left out of usage texts. -/
def hidden (o : OptionSpec) : Bool :=
  o.help.isNone

/-- The long flag, else the short one, else the destination. -/
def displayName (o : OptionSpec) : String :=
  match o.long, o.short with
  | some long, _ => long
  | none, some short => short.toString
  | none, none => o.dest

/-- Whether `o` may stand before `p` in a listing. -/
def precedes (o p : OptionSpec) : Bool :=
  let a := Text.lower o.displayName
  let b := Text.lower p.displayName
  a < b || (a == b && !(p.dest < o.dest))

/-- The options in listing order; those that rank the same keep their order. -/
def sorted (options : List OptionSpec) : List OptionSpec :=
  options.mergeSort precedes

end OptionSpec

end CommandVerbs
