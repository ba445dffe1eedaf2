/-!
# Positional arguments

An argument takes from `min` to `max` values, without a limit if there is no `max`. The counts are
integers so that a nonsensical declaration can be written down and refused.
-/

namespace CommandVerbs

/-- A declared positional argument. -/
structure ArgumentSpec where
  name : String
  help : String
  min : Int := 1
  max : Option Int := some 1
  deriving DecidableEq, Repr, Inhabited

namespace ArgumentSpec

/-- Takes exactly one value. -/
def single (a : ArgumentSpec) : Bool :=
  a.min == 1 && a.max == some 1

/-- May take more than one value. -/
def variadic (a : ArgumentSpec) : Bool :=
  match a.max with
  | none => true
  | some max => 1 < max

/-- Takes at least one value. -/
def required (a : ArgumentSpec) : Bool :=
  0 < a.min

end ArgumentSpec

end CommandVerbs
