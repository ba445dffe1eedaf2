import CommandVerbs.Bundle.Basic

/-!
# Bundles of the base verbs

The verbs that every program has: one that shows help and one that writes launcher scripts.
-/

namespace CommandVerbs.Bundle

/-- Shows help for the verbs named as arguments, or in general. -/
def help : Bundle :=
  { hooks := { complete := true, go := true }
    complete := fun v =>
      (((v.complete
          { description := some "Display general or verb-specific help.", base := some true }).addOptions
          [.declare (some 'a') (some "--all") "all"
            (some "display all available help, including verb usage") .flag none]).addArguments
          [{ name := "verb", help := "verb name", min := 0, max := none }], [])
    go := fun _ => do
      let values ← Script.values
      Script.help (values.list "verb") (values.flag "all") }

/-- The package that a command line asks for. -/
def packageRequest (values : Values) : PackageRequest :=
  { directory := values.text? "output_dir"
    force := values.flag "force"
    names := values.list "name" }

/-- Writes launcher scripts for the names given as arguments. -/
def package : Bundle :=
  { hooks := { complete := true, go := true }
    complete := fun v =>
      (((v.complete
          { description := some "Create a runnable program package."
            epilogue := some ("The optional NAME argument(s) allow package generation for base " ++
              "commands other\nthan the current one. If no NAME is provided the current base " ++
              "command is\npackaged.")
            base := some true
            hidden := some true }).addOptions
          [.declare (some 'f') (some "--force") "force" (some "overwrite existing files") .flag
            (some (.flag false)),
          .declare (some 'o') (some "--output_dir") "output_dir"
            (some "specify the output directory (defaults to the working directory)") .text
            none]).addArguments
          [{ name := "name", help := "[ NAME ... ]", min := 0, max := none }], [])
    go := fun _ => do Script.package (packageRequest (← Script.values)) }

end CommandVerbs.Bundle
