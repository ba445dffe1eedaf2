import CommandVerbs.CommandLine.HelpPage
import CommandVerbs.Fault
import CommandVerbs.Table
import CommandVerbs.Text.Blank

/-!
# Help in general and for verbs

General help lists the verbs by name, those that every program has in a list of their own. Help for
verbs is their long pages one after the other.
-/

namespace CommandVerbs.Grammar

/-- The verbs in ascending order of their names. -/
def byName (g : Grammar) : List VerbGrammar :=
  g.verbs.mergeSort fun a b => !(b.name < a.name)

/-- The long page of a verb, without blanks at its end. -/
def verbHelp (g : Grammar) (name : String) : Except Fault String :=
  match g.verb? name with
  | some verb => .ok (Text.trimEnd ((g.verbPage verb true).render true))
  | none => .error (.aborted s!"Unknown verb {inQuotes name}."
      ["Run " ++ inQuotes (g.program.name ++ " help") ++ " to list the verbs."])

/-- The list of verbs under a caption, unless it is empty. -/
def verbTable? (caption : String) (verbs : List VerbGrammar) : Option String :=
  if verbs.isEmpty then none
  else
    let table : Table :=
      { caption := some caption, indent := 2, separator := "  "
        rows := verbs.map fun g => [g.name, g.about.getD ""] }
    some table.render

/-- Help in general; with `all`, hidden verbs are listed, and the pages of the others follow. -/
def generalHelp (g : Grammar) (all : Bool) : String :=
  let listed := g.byName.filter fun verb => all || !verb.hidden
  let pages := if all then (g.byName.filter (!·.hidden)).map fun verb =>
      String.ofList (List.replicate 72 '=') ++ "\n" ++
        Text.trimEnd ((g.verbPage verb true).render true)
    else []
  "\n\n".intercalate (
    [s!"Usage: {g.program.name} [ -v ] VERB [ OPTIONS ... ] [ ARGUMENTS ... ]",
      s!"{g.program.name} {g.program.version}: {g.program.description}"] ++
    (verbTable? "Verbs:" (listed.filter (!·.base))).toList ++
    (verbTable? "Other verbs:" (listed.filter (·.base))).toList ++
    ["Run " ++ inQuotes (g.program.name ++ " help VERB") ++
      " to display help for a specific verb."] ++ pages)

/-- Help for the named verbs, or in general if none is named. -/
def help (g : Grammar) (names : List String) (all : Bool) : Except Fault String :=
  if names.isEmpty then .ok (g.generalHelp all)
  else (names.mapM g.verbHelp).map ("\n\n".intercalate ·)

end CommandVerbs.Grammar
