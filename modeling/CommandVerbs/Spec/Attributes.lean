/-!
# Attributes of a verb

What a verb says about itself apart from its options and arguments. Whoever completes a verb after
its declaration offers defaults: they fill texts that are still absent and raise flags, and never
change what the declaration has set.
-/

namespace CommandVerbs

structure Attributes where
  /-- one line for listings -/
  description : Option String := none
  /-- further text at the end of the long help -/
  epilogue : Option String := none
  /-- replaces the generated usage line -/
  usage : Option String := none
  /-- the verb is common to all programs -/
  base : Bool := false
  /-- the verb is left out of listings -/
  hidden : Bool := false
  /-- trailing arguments are passed on untouched -/
  passthrough : Bool := false
  /-- options for a launched program, in place of the launcher's own -/
  launchOptions : List String := []
  deriving DecidableEq, Repr, Inhabited

/-- What is offered for attributes that are not set. -/
structure Defaults where
  description : Option String := none
  epilogue : Option String := none
  usage : Option String := none
  base : Option Bool := none
  hidden : Option Bool := none
  passthrough : Option Bool := none
  deriving DecidableEq, Repr, Inhabited

namespace Attributes

/-- Takes what is offered for texts that are absent, and raises the flags that are offered as raised.
A flag is never unset, so that it is offered in vain as anything else. -/
def complete (a : Attributes) (d : Defaults) : Attributes :=
  { a with
    description := a.description.or d.description
    epilogue := a.epilogue.or d.epilogue
    usage := a.usage.or d.usage
    base := if d.base = some true then true else a.base
    hidden := if d.hidden = some true then true else a.hidden
    passthrough := match d.passthrough with
      | some passthrough => a.passthrough || passthrough
      | none => a.passthrough }

/-- Appends the options that are not there yet. -/
def mergeLaunchOptions (a : Attributes) (options : List String) : Attributes :=
  { a with
    launchOptions := options.foldl
      (fun present o => if present.contains o then present else present ++ [o]) a.launchOptions }

end Attributes

end CommandVerbs
