import CommandVerbs.Console.Startup
import CommandVerbs.Proofs.CommandLine.Levels

/-! The flags that ask for more to be said are looked for twice: by a scan of the words, which sets the
log filter, and by a parser. Both find the flags that stand alone before the values at the end. The scan
misses a flag in one word with others, and finds those among words passed on. -/
namespace CommandVerbs

variable {l : Level} {s : Switch} {flag word : String} {flags : List Char} {words before rest : List String}

theorem eq_ok_of_toOption {ε α : Type} {attempt : Except ε α} {a : α}
    (ended : attempt.toOption = some a) : attempt = .ok a := by
  cases attempt with
  | error fault => contradiction
  | ok b => exact congrArg Except.ok (Option.some.inj ended)

namespace WordForm

theorem toList_of_long (form : WordForm.of word = .long flag none) :
    word.toList = '-' :: '-' :: flag.toList := by
  unfold WordForm.of at form
  split at form
  · contradiction
  · rename_i chars
    split at form
    · rw [chars, ← (long.inj form).1, String.toList_ofList]
    · cases form
  all_goals contradiction

end WordForm

/-! ## Flags alone and in clusters -/

/-- The word is a flag that asks for more to be said, and nothing else. -/
def AsksAlone (word : String) : Prop :=
  word = "-v" ∨ word = "--verbose"

/-- The word is a short flag that asks for more to be said, and others. -/
def Level.AsksInCluster (l : Level) (word : String) : Prop :=
  ∃ flags, WordForm.of word = .short flags ∧ 2 ≤ flags.length ∧
    Switch.verbose.id ∈ l.raisedShort flags

/-- The switch that asks for more to be said is the only one of its name, and of each of its flags. -/
structure Level.Tells (l : Level) : Prop where
  listed : Switch.verbose ∈ l.switches
  alone : ∀ s ∈ l.switches,
    s.id = Switch.verbose.id ∨ s.short = some 'v' ∨ s.long = some "verbose" → s = Switch.verbose

/-- No switch of the verb's own has the name or a flag of the one that asks for more to be said. -/
def VerbGrammar.LeavesVerbose (v : VerbGrammar) : Prop :=
  ∀ s ∈ v.switches, s.id ≠ Switch.verbose.id ∧ s.short ≠ some 'v' ∧ s.long ≠ some "verbose"

instance (v : VerbGrammar) : Decidable v.LeavesVerbose :=
  inferInstanceAs (Decidable (∀ s ∈ v.switches,
    s.id ≠ Switch.verbose.id ∧ s.short ≠ some 'v' ∧ s.long ≠ some "verbose"))

theorem Grammar.root_tells (g : Grammar) : g.root.Tells where
  listed := List.mem_cons_self
  alone := by
    simp [Grammar.root, Switch.everywhere, Switch.verbose, Switch.config, Switch.showHelp,
      Switch.showVersion]

theorem VerbGrammar.LeavesVerbose.tells {v : VerbGrammar} (leaves : v.LeavesVerbose) :
    v.level.Tells where
  listed := by
    have none : v.switches.any (·.id == Switch.verbose.id) = false := by
      rw [List.any_eq_false]
      exact fun s member => by simpa using (leaves s member).1
    refine List.mem_append_left _ (List.mem_append_right _ (List.mem_filter.mpr ⟨?_, ?_⟩))
    · exact List.mem_cons_self
    · simp [none]
  alone := by
    intro s member like
    rcases List.mem_append.mp member with member | help
    · rcases List.mem_append.mp member with own | shared
      · obtain ⟨name, short, long⟩ := leaves s own
        simp [name, short, long] at like
      · have either : s = Switch.verbose ∨ s = Switch.config := by
          simpa [Switch.everywhere] using (List.mem_filter.mp shared).1
        rcases either with rfl | rfl
        · rfl
        · simp [Switch.config, Switch.verbose] at like
    · obtain rfl := List.mem_singleton.mp help
      simp [Switch.showHelp, Switch.verbose] at like

namespace Level.Tells

theorem byShort? (tells : l.Tells) : l.byShort? 'v' = some Switch.verbose := by
  cases found : l.byShort? 'v' with
  | none => exact absurd (List.find?_eq_none.mp found _ tells.listed) (by decide)
  | some s =>
    have short : s.short = some 'v' := by simpa using List.find?_some found
    rw [tells.alone s (List.mem_of_find?_eq_some found) (.inr (.inl short))]

theorem byLong? (tells : l.Tells) : l.byLong? "verbose" = some Switch.verbose := by
  cases found : l.byLong? "verbose" with
  | none => exact absurd (List.find?_eq_none.mp found _ tells.listed) (by decide)
  | some s =>
    have long : s.long = some "verbose" := by simpa using List.find?_some found
    rw [tells.alone s (List.mem_of_find?_eq_some found) (.inr (.inr long))]

theorem mem_of_raisedShort (tells : l.Tells) (raised : Switch.verbose.id ∈ l.raisedShort flags) :
    'v' ∈ flags := by
  induction flags with
  | nil => contradiction
  | cons flag rest ih =>
    unfold raisedShort at raised
    split at raised
    · contradiction
    · rename_i s found
      split at raised
      · contradiction
      · rcases List.mem_cons.mp raised with here | later
        · have verbose := tells.alone s (List.mem_of_find?_eq_some found) (.inl here.symm)
          have short : s.short = some flag := by simpa using List.find?_some found
          obtain rfl : 'v' = flag := by simpa [verbose, Switch.verbose] using short
          exact List.mem_cons_self
        · exact List.mem_cons_of_mem _ (ih later)

/-- What a word has to be to ask for more to be said. -/
theorem raisedBy_iff (tells : l.Tells) :
    Switch.verbose.id ∈ l.raisedBy word ↔ AsksAlone word ∨ l.AsksInCluster word := by
  constructor
  · intro raised
    unfold raisedBy at raised
    split at raised
    · rename_i flag form
      obtain ⟨s, found, same⟩ := Option.map_eq_some_iff.mp (Option.mem_toList.mp raised)
      have found := (Option.filter_eq_some_iff.mp found).1
      have verbose := tells.alone s (List.mem_of_find?_eq_some found) (.inl same)
      have long : s.long = some flag := by simpa using List.find?_some found
      obtain rfl : "verbose" = flag := by simpa [verbose, Switch.verbose] using long
      exact .inl (.inr (String.toList_inj.mp (WordForm.toList_of_long form)))
    · rename_i flags form
      have member := tells.mem_of_raisedShort raised
      by_cases several : 2 ≤ flags.length
      · exact .inr ⟨flags, form, several, raised⟩
      · obtain ⟨flag, rfl⟩ : ∃ flag, flags = [flag] := by
          apply List.length_eq_one_iff.mp
          have := List.length_pos_of_mem member
          omega
        obtain rfl := List.mem_singleton.mp member
        exact .inl (.inl (String.toList_inj.mp (WordForm.toList_of_short form)))
    all_goals contradiction
  · rintro ((rfl | rfl) | ⟨flags, form, -, raised⟩)
    · have form : WordForm.of "-v" = .short ['v'] := by decide +kernel
      simp [raisedBy, form, raisedShort, tells.byShort?, Switch.verbose, Switch.takesValue]
    · have form : WordForm.of "--verbose" = .long "verbose" none := by decide +kernel
      simp [raisedBy, form, tells.byLong?, Switch.verbose, Switch.takesValue]
    · simpa [raisedBy, form] using raised

theorem knows_alone (tells : l.Tells) (alone : AsksAlone word) : l.knows word := by
  rcases alone with rfl | rfl
  · have form : WordForm.of "-v" = .short ['v'] := by decide +kernel
    simp [knows, form, tells.byShort?]
  · have form : WordForm.of "--verbose" = .long "verbose" none := by decide +kernel
    simp [knows, form, tells.byLong?]

/-- A flag that stands alone is read as such wherever it stands. -/
theorem heard_iff (tells : l.Tells) {heard : List String} (spelled : l.Spelled false words heard) :
    Switch.verbose.id ∈ heard.flatMap l.raisedBy ↔
      (∃ word ∈ words, AsksAlone word) ∨ ∃ word ∈ heard, l.AsksInCluster word := by
  simp only [List.mem_flatMap, tells.raisedBy_iff]
  constructor
  · rintro ⟨word, member, alone | cluster⟩
    · exact .inl ⟨word, spelled.sublist.subset member, alone⟩
    · exact .inr ⟨word, member, cluster⟩
  · rintro (⟨word, member, alone⟩ | ⟨word, member, cluster⟩)
    · exact ⟨word, spelled.mem_heard word member (tells.knows_alone alone), .inl alone⟩
    · exact ⟨word, member, .inr cluster⟩

end Level.Tells

/-! ## The scan and the reading -/

theorem Trails.asksForMore_iff {passed rest : List String} (trails : Trails passed rest) :
    Startup.asksForMore rest ↔ rest = passed ∧ Startup.asksForMore passed := by
  cases trails with
  | nothing none => simp [none, Startup.asksForMore]
  | @separator later behind =>
    have other : "--" :: later ≠ passed := by
      rintro rfl
      exact absurd behind.length_le (by simp)
    simp [other, Startup.asksForMore]
  | passed _ same => simp [same]

namespace Startup

theorem asksForMore_append (unseparated : ∀ word ∈ before, word ≠ "--") :
    asksForMore (before ++ rest) ↔ (∃ word ∈ before, AsksAlone word) ∨ asksForMore rest := by
  rw [asksForMore, List.takeWhile_append_of_pos (by simpa using unseparated), List.any_append,
    Bool.or_eq_true]
  simp [asksForMore, AsksAlone]

/-- Of a command line with a registered verb that is accepted by a parser which keeps to the syntax, the
scan finds the flags that stand alone before the values at its end, and those that stand alone among words
passed on. The parser finds the former, and those in a word with others. -/
theorem asksForMore_and_verbose {parser : Parser} (documented : parser.Documented) {g : Grammar}
    (built : g.Built) {line : CommandLine} {name : String} {m : Matches}
    (accepted : parser g words = .ok line) (invoked : line.verb = some (name, m))
    (keeps : ∀ v ∈ g.verb? name, v.KeepsPassed) :
    Nonempty (g.Layout words name m) ∧ ∀ layout : g.Layout words name m,
      (name ≠ "--" → (asksForMore words ↔
        (∃ word ∈ layout.before ++ name :: layout.after, AsksAlone word) ∨
          layout.rest = m.passed ∧ asksForMore m.passed)) ∧
      (¬AsksAlone name → layout.verb.LeavesVerbose → (line.verbose ↔
        (∃ word ∈ layout.before ++ name :: layout.after, AsksAlone word) ∨
          (∃ word ∈ layout.outer, g.root.AsksInCluster word) ∨
          ∃ word ∈ layout.inner, layout.verb.level.AsksInCluster word)) := by
  refine ⟨documented.laid built accepted invoked keeps, fun layout => ⟨fun other => ?_,
    fun other leaves => ?_⟩⟩
  · have whole : words = (layout.before ++ name :: layout.after) ++ layout.rest := by
      rw [List.append_assoc, List.cons_append, ← layout.whole]
    rw [congrArg asksForMore whole, asksForMore_append, layout.trails.asksForMore_iff]
    intro word member separator
    rw [separator] at member
    rcases List.mem_append.mp member with earlier | later
    · exact layout.leads.unseparated _ earlier rfl
    · rcases List.mem_cons.mp later with same | later
      · exact other same.symm
      · exact layout.follows.unseparated _ later rfl
  · have kept := keeps layout.verb layout.found
    rw [documented.raised built accepted invoked layout kept, leaves.tells.heard_iff layout.follows,
      g.root_tells.heard_iff layout.leads]
    simp only [List.mem_append, List.mem_cons, or_and_right, exists_or, exists_eq_left, other,
      false_or]
    exact or_or_or_comm

/-- A verb with a flag of its own that passes words on. -/
def passing : Registry :=
  (({} : Registry).command "run" (fun c => c.go)
    { attributes := { passthrough := true }
      options := [.declare (some 'a') none "all" none .flag none] }).registry

theorem passing_accepted : ∃ g line m,
    (Grammar.ofRegistry Console.program none passing).2 = .ok g ∧
      g.read ["run", "-a", "x", "-v"] = .ok line ∧ line.verb = some ("run", m) ∧
      line.verbose = false ∧ m.passed = ["x", "-v"] ∧
      ∀ v ∈ g.verb? "run", v.KeepsPassed ∧ v.LeavesVerbose := by
  have facts : (do
      let g ← (Grammar.ofRegistry Console.program none passing).2.toOption
      let line ← (g.read ["run", "-a", "x", "-v"]).toOption
      let invoked ← line.verb
      let v ← g.verb? "run"
      return (invoked.1, line.verbose, invoked.2.passed,
        decide (v.KeepsPassed ∧ v.LeavesVerbose))) =
        some ("run", false, ["x", "-v"], true) := by decide +kernel
  obtain ⟨g, built, facts⟩ := Option.bind_eq_some_iff.mp facts
  obtain ⟨line, accepted, facts⟩ := Option.bind_eq_some_iff.mp facts
  obtain ⟨⟨name, m⟩, invoked, facts⟩ := Option.bind_eq_some_iff.mp facts
  obtain ⟨v, named, facts⟩ := Option.bind_eq_some_iff.mp facts
  simp only [Option.pure_def, Option.some.injEq, Prod.mk.injEq, decide_eq_true_eq] at facts
  obtain ⟨rfl, quiet, passed, fit⟩ := facts
  refine ⟨g, line, m, eq_ok_of_toOption built, eq_ok_of_toOption accepted, invoked, quiet, passed,
    fun w found => ?_⟩
  rwa [← Option.some.inj (named.symm.trans found)]

theorem asksForMore_and_verbose_passing :
    Parser.Documented Grammar.read ∧ ∃ (g : Grammar) (line : CommandLine) (m : Matches)
      (layout : g.Layout ["run", "-a", "x", "-v"] "run" m),
      g.Built ∧ g.read ["run", "-a", "x", "-v"] = .ok line ∧ line.verb = some ("run", m) ∧
      (∀ v ∈ g.verb? "run", v.KeepsPassed) ∧ asksForMore ["run", "-a", "x", "-v"] ∧
      line.verbose = false ∧ layout.rest = m.passed := by
  obtain ⟨g, line, m, made, accepted, invoked, quiet, passed, fit⟩ := passing_accepted
  have built : g.Built := ⟨_, _, _, made⟩
  have keeps v (found : v ∈ g.verb? "run") : v.KeepsPassed := (fit v found).1
  obtain ⟨⟨layout⟩, all⟩ :=
    asksForMore_and_verbose Grammar.read_documented built accepted invoked keeps
  obtain ⟨scanned, read⟩ := all layout
  have asks : asksForMore ["run", "-a", "x", "-v"] := by decide
  refine ⟨Grammar.read_documented, g, line, m, layout, built, accepted, invoked, keeps, asks, quiet, ?_⟩
  have silent : ¬∃ word ∈ layout.before ++ "run" :: layout.after, AsksAlone word := by
    intro alone
    have raised := (read (by simp [AsksAlone]) (fit _ layout.found).2).mpr (.inl alone)
    simp [quiet] at raised
  -- the scan finds a flag, which can only be among the words passed on
  exact ((scanned (by decide)).mp asks).resolve_left silent |>.1

/-- Of two short flags in one word the scan misses the one that asks for more. -/
theorem clustered_flag_missed :
    Parser.Documented Grammar.read ∧
    (do
      let console ← (Console.start { configPath := "verbkit.cfg", programPath := "" }).toOption
      let line ← (Grammar.read console.grammar ["help", "-av", "config"]).toOption
      return (line.verb.map (·.1), line.verbose)) = some (some "help", true) ∧
    asksForMore ["help", "-av", "config"] = false :=
  ⟨Grammar.read_documented, by decide +kernel, by decide⟩

end Startup

end CommandVerbs
