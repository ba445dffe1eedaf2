import CommandVerbs.CommandLine.Grammar
import CommandVerbs.Text.Blank
import CommandVerbs.Text.Split
import CommandVerbs.Text.Visible

/-!
# Help pages

A page says what a verb or the program is for, how it is used, and lists its arguments and switches.
On a long page each help text has lines of its own under what it explains; on a short page it stands
beside it. The mark `{n}` in a text of the declaration is a line break.

A page is laid out for a terminal, with flags, verbs and headings emphasized, and what is visible of
it is its text. So a sequence that a text of the declaration leaves open ends where the next emphasis
begins.
-/

namespace CommandVerbs

/-- The text with its marked line breaks carried out. -/
def breakLines (s : String) : String :=
  s.replace "\x7bn\x7d" "\n"

namespace Switch

/-- The value of the switch in usage texts, after a space. -/
def valueText (s : Switch) : String :=
  if s.takesValue then s!" <{s.valueName}>" else ""

/-- All flags of the switch and its value. -/
def signature (s : Switch) : String :=
  (match s.short, s.long with
    | some short, some long => Text.bold s!"-{short}" ++ ", " ++ Text.bold s!"--{long}"
    | some short, none => Text.bold s!"-{short}"
    | none, some long => "    " ++ Text.bold s!"--{long}"
    | none, none => "") ++ s.valueText

/-- The long flag of the switch, else the short one, and its value. -/
def mainForm (s : Switch) : String :=
  (match s.long, s.short with
    | some long, _ => s!"--{long}"
    | none, some short => s!"-{short}"
    | none, none => "") ++ s.valueText

/-- The key by which switches are listed: the short flag, the lower case first, else the long one. -/
def listingKey (s : Switch) : String :=
  match s.short, s.long with
  | some short, _ => String.ofList [short.toLower, if short.isLower then '0' else '1']
  | none, some long => long
  | none, none => "\x7b" ++ s.id

/-- What is remarked after the help text: the variable that gives the value, and its value. -/
def remark (configured : Option String) (s : Switch) : String :=
  match s.environmentName with
  | none => ""
  | some name => "[env: " ++ name ++ "=" ++ configured.getD "" ++ "]"

end Switch

namespace Positional

/-- The argument in usage texts: each value that is needed, and dots if there may be more. -/
def signature (p : Positional) : String :=
  let value := if p.required then s!"<{p.valueName}>" else s!"[{p.valueName}]"
  " ".intercalate (List.replicate p.min value) ++ (if p.max = some p.min then "" else "...")

end Positional

/-- A line of a listing: what is explained, and the explanation with a remark at its end. -/
structure HelpEntry where
  signature : String
  help : String
  remark : String := ""
  deriving DecidableEq, Repr, Inhabited

/-- Entries under a heading. -/
structure HelpSection where
  heading : String
  entries : List HelpEntry
  /-- the width of the signatures on a short page -/
  width : Nat
  deriving Repr, Inhabited

namespace HelpEntry

def spaces (n : Nat) : String :=
  String.ofList (List.replicate n ' ')

/-- The help text and the remark, `gap` between them if there are both. -/
def explanation (e : HelpEntry) (gap : String) : String :=
  let help := breakLines e.help
  if e.remark.isEmpty then help
  else if help.isEmpty then e.remark
  else help ++ gap ++ e.remark

/-- The text with all lines but the first indented. -/
def hanging (indent : Nat) (s : String) : String :=
  s.replace "\n" ("\n" ++ spaces indent)

/-- The entry with its explanation on lines below it. -/
def below (gap : String) (e : HelpEntry) : String :=
  "  " ++ e.signature ++ "\n" ++ spaces 10 ++ hanging 10 (e.explanation gap)

/-- The entry with its explanation two columns after the signatures. -/
def beside (width : Nat) (e : HelpEntry) : String :=
  "  " ++ e.signature ++ spaces (width + 2 - (Text.visible e.signature).length) ++
    hanging (width + 4) (e.explanation " ")

end HelpEntry

namespace HelpSection

def render (long : Bool) (s : HelpSection) : String :=
  Text.underlined (s.heading ++ ":") ++ "\n" ++
    (if long then "\n\n".intercalate (s.entries.map (HelpEntry.below "\n\n"))
    else "\n".intercalate (s.entries.map (HelpEntry.beside s.width)))

/-- The width of the widest of some texts, which is two at least. -/
def widest (texts : List String) : Nat :=
  texts.foldl (fun width s => Nat.max width s.length) 2

/-- The positional arguments in order. -/
def ofPositionals (positionals : List Positional) : HelpSection :=
  { heading := "Arguments"
    entries := positionals.map fun p => { signature := p.signature, help := p.help }
    width := widest (positionals.map Positional.signature) }

/-- Puts a switch at its place in a listing, in place of one with the same rank. -/
def insertRanked (rank : Nat) (s : Switch) :
    List (Nat × Switch) → List (Nat × Switch)
  | [] => [(rank, s)]
  | entry :: rest =>
    let before := rank < entry.1 || (rank == entry.1 && s.listingKey < entry.2.listingKey)
    if before then (rank, s) :: entry :: rest
    else if rank = entry.1 ∧ s.listingKey = entry.2.listingKey then (rank, s) :: rest
    else entry :: insertRanked rank s rest

/-- The visible switches by rank, those of one rank by key. -/
def ranked (switches : List (Nat × Switch)) : List Switch :=
  (switches.foldl
    (fun listed (rank, s) => if s.hidden then listed else insertRanked rank s listed) []).map (·.2)

/-- The switches in listing order, given with their ranks. -/
def ofSwitches (configured : Option String) (switches : List (Nat × Switch)) : HelpSection :=
  let listed := ranked switches
  let measured := listed.filter fun s => s.takesValue || s.long.isSome || s.short.isNone
  { heading := "Options"
    entries := listed.map fun s =>
      { signature := s.signature, help := s.help, remark := s.remark configured }
    width := widest (measured.map Switch.mainForm) + 4 }

/-- The verbs in order, with what they are for. -/
def ofVerbs (verbs : List VerbGrammar) : HelpSection :=
  { heading := "Commands"
    entries := verbs.map fun g => { signature := Text.bold g.name, help := g.about.getD "" }
    width := widest (verbs.map (·.name)) }

end HelpSection

/-- A page of help. -/
structure HelpPage where
  about : Option String
  usage : String
  sections : List HelpSection
  epilogue : Option String := none
  deriving Repr, Inhabited

namespace HelpPage

/-- The text without its first line if that is blank. -/
def dropBlankLine (s : String) : String :=
  match Text.cutAt '\n' s with
  | some (line, rest) => if Text.trim line = "" then rest else s
  | none => s

/-- The text of the page, which ends with one line feed. -/
def render (long : Bool) (page : HelpPage) : String :=
  let about := (page.about.map fun about => breakLines about ++ "\n").getD ""
  let epilogue := (page.epilogue.map fun epilogue => "\n\n" ++ breakLines epilogue).getD ""
  let text := about ++ "\n" ++ Text.underlined "Usage:" ++ " " ++ page.usage ++ "\n\n" ++
    "\n\n".intercalate (page.sections.map (HelpSection.render long)) ++ epilogue
  Text.visible (Text.trimEnd (dropBlankLine text)) ++ "\n"

end HelpPage

namespace VerbGrammar

/-- The ranks of a verb's switches: its own in listing order from zero, the shared ones from zero
too, help at the end. -/
def rankedSwitches (g : VerbGrammar) : List (Nat × Switch) :=
  let rankOf := fun (s : Switch) => Switch.everywhere.findIdx (·.id == s.id)
  g.switches.zipIdx.map (fun (s, rank) => (rank, s)) ++
    (shared g.switches).map (fun s => (rankOf s, s))

/-- How the verb is used: as declared, without blanks at the end, or with its arguments in order. -/
def usageText (g : VerbGrammar) (program : String) : String :=
  match g.usage with
  | some usage => Text.trimEnd s!"{program} {g.name} {usage}"
  | none =>
    let options := if (g.switches ++ shared g.switches).any (!·.hidden) then ["[OPTIONS]"] else []
    " ".intercalate ([Text.bold (program ++ " " ++ g.name)] ++ options ++ g.positionals.map (·.signature))

end VerbGrammar

namespace Grammar

/-- The switch that shows help, and what it says of the other form of help. -/
def helpSwitch (twoForms long : Bool) : Switch :=
  if !twoForms then Switch.showHelp
  else if long then { Switch.showHelp with help := "Print help (see a summary with '-h')" }
  else { Switch.showHelp with help := "Print help (see more with '--help')" }

/-- The rank of the switches that show something, after all others. -/
def lastRank : Nat := 999

/-- The page of a verb. Only a long one has the epilogue. -/
def verbPage (g : Grammar) (verb : VerbGrammar) (long : Bool) : HelpPage :=
  let help := helpSwitch verb.epilogue.isSome long
  let arguments := if verb.positionals.isEmpty then []
    else [HelpSection.ofPositionals verb.positionals]
  { about := verb.about
    usage := verb.usageText g.program.name
    sections := arguments ++
      [.ofSwitches g.configured (verb.rankedSwitches ++ [(lastRank, help)])]
    epilogue := if long then verb.epilogue else none }

/-- The page of the program. -/
def rootPage (g : Grammar) : HelpPage :=
  let shown := g.verbs.filter (!·.hidden)
  { about := some g.program.description
    usage := Text.bold g.program.name ++ " [OPTIONS]" ++ (if g.verbs.isEmpty then "" else " [VERB]")
    sections := (if shown.isEmpty then [] else [.ofVerbs shown]) ++
      [.ofSwitches g.configured
        (Switch.everywhere.zipIdx.map (fun (s, rank) => (rank, s)) ++
          [(lastRank, Switch.showHelp), (lastRank, Switch.showVersion)])] }

/-- The page that is asked for on a command line: of a verb, or of the program. A verb without an
epilogue has short pages only. -/
def requestedPage (g : Grammar) (verb : Option String) (long : Bool) : String :=
  match verb.bind g.verb? with
  | none => g.rootPage.render false
  | some verb =>
    let long := long && verb.epilogue.isSome
    (g.verbPage verb long).render long

/-- The line that names the program and its version. -/
def versionLine (g : Grammar) : String :=
  s!"{g.program.name} {g.program.version}\n"

end Grammar

end CommandVerbs
