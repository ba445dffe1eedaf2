import CommandVerbs.Console.LogFilter.Rule

/-!
# Log filters

A filter says which diagnostics are shown. It is written as rules between commas; of the rules that
concern a diagnostic the most specific one counts, and of those the last.
-/

namespace CommandVerbs

/-- Which diagnostics are shown. -/
structure LogFilter where
  rules : List LogRule
  deriving DecidableEq, Repr, Inhabited

namespace LogFilter

/-- Shows everything of a severity or above. -/
def above (level : Severity) : LogFilter :=
  ⟨[{ level := some level }]⟩

/-- The filter that a text asks for; one without rules shows errors. -/
def ofText? (text : String) : Option LogFilter :=
  match (Text.splitAt ',' text).filter (· != "") with
  | [] => some (above .error)
  | parts => (parts.mapM LogRule.ofText?).map fun rules => ⟨rules.flatten⟩

/-- The rule that counts for a diagnostic. -/
def ruleFor? (f : LogFilter) (d : Diagnostic) : Option LogRule :=
  (f.rules.filter (·.concerns d)).foldl
    (fun best rule => if best.all rule.atLeast then some rule else best) none

/-- Whether a diagnostic is shown. -/
def shows (f : LogFilter) (d : Diagnostic) : Bool :=
  ((f.ruleFor? d).bind (·.level)).any fun level => level.rank ≤ d.severity.rank

end LogFilter

end CommandVerbs
