import CommandVerbs.Proofs.KeyMap
import CommandVerbs.Proofs.Session.Running
import CommandVerbs.Proofs.Text.LowerCase
import CommandVerbs.Rehearsal.Recorder

/-! Which modifier the word after a command reaches. Letter case makes no difference to the word, but
a modifier with a raised letter outside ASCII in its name is reached by no word, not even by its own
name. -/
namespace CommandVerbs.MultiCommand

variable {σ : Type} {m : MultiCommand} {modifier : Modifier} {word : String}

/-- The first modifier that a word names, letter case apart. -/
def named? (m : MultiCommand) (word : String) : Option Modifier :=
  m.modifiers.find? fun k => Text.lower k.name == Text.lower word

/-- The first of them whose name has no raised letter outside ASCII. -/
def reached? (m : MultiCommand) (word : String) : Option Modifier :=
  m.modifiers.find? fun k =>
    decide (Text.RaisedInAscii k.name) && Text.lower k.name == Text.lower word

/-- A script that asks what is being executed, and then does what another script does and nothing
else. -/
structure GoesOnAs (runner : Runner σ) (s : σ) (script next : Script Unit) : Prop where
  run : script.run runner s = next.run runner (runner .invocation s).2
  moments : script.moments runner s =
    (.invocation, s) :: next.moments runner (runner .invocation s).2

theorem findModifier?_lower (m : MultiCommand) (word : String) :
    m.findModifier? (Text.lower word) = m.reached? word := by
  have test : ∀ k : Modifier, Text.sameIgnoringAsciiCase k.name (Text.lower word) =
      (decide (Text.RaisedInAscii k.name) && Text.lower k.name == Text.lower word) := by
    intro k
    rw [Bool.eq_iff_iff, Text.sameIgnoringAsciiCase_lower]
    simp only [Bool.and_eq_true, decide_eq_true_eq, beq_iff_eq]
  simp only [findModifier?, reached?, test]

theorem reached?_congr {other : String} (same : Text.lower word = Text.lower other) :
    m.reached? word = m.reached? other := by
  rw [reached?, reached?, same]

theorem named?_isSome (declared : modifier ∈ m.modifiers) : (m.named? modifier.name).isSome := by
  rw [named?, List.find?_isSome]
  exact ⟨modifier, declared, beq_self_eq_true _⟩

/-- The first modifier of a name is reached if its own name allows it. -/
theorem reached?_of_named? (named : m.named? word = some modifier)
    (ascii : Text.RaisedInAscii modifier.name) : m.reached? word = some modifier := by
  obtain ⟨same, before, after, split, earlier⟩ := List.find?_eq_some_iff_append.mp named
  refine List.find?_eq_some_iff_append.mpr ⟨?_, before, after, split, fun k member => ?_⟩
  · simp only [ascii, decide_true, Bool.true_and]
    exact same
  · have := earlier k member
    simp_all

/-- What the dispatch does once it knows the word. -/
def chosen (m : MultiCommand) (go : Script Unit) (word : String) : Script Unit :=
  match m.reached? word with
  | some modifier => modifier.body ⟨m.command.verb, m.command.bundles, go⟩
  | none => m.refuse (Text.lower word)

theorem dispatch_eq (m : MultiCommand) (go : Script Unit) :
    m.dispatch go = .ask .invocation fun invocation =>
      m.chosen go ((invocation.values.text? Modifier.selector).getD "") := by
  simp only [chosen, ← findModifier?_lower]
  rfl

theorem dispatch_goesOn {runner : Runner σ} {s : σ} (go : Script Unit)
    (asked : (runner .invocation s).1.values.text? Modifier.selector = some word) :
    GoesOnAs runner s (m.dispatch go) (m.chosen go word) := by
  rw [dispatch_eq]
  constructor
  · change (m.chosen go (((runner .invocation s).1.values.text? Modifier.selector).getD "")).run
      runner (runner .invocation s).2 = _
    rw [asked, Option.getD_some]
  · rw [Script.moments, asked, Option.getD_some]

/-- A word that names a declared modifier, letter case apart, is answered by the body of the first
modifier of that name, and by nothing else, if the name has no raised letter outside ASCII. Otherwise a
later one without such a letter answers; if there is none, the word is refused. -/
theorem dispatch_reaches (go : Script Unit) (runner : Runner σ) (s : σ)
    (declared : modifier ∈ m.modifiers) (same : Text.lower word = Text.lower modifier.name)
    (asked : (runner .invocation s).1.values.text? Modifier.selector = some word) :
    ∃ first, m.named? modifier.name = some first ∧
      (Text.RaisedInAscii first.name →
        GoesOnAs runner s (m.dispatch go) (first.body ⟨m.command.verb, m.command.bundles, go⟩)) ∧
      (∀ reached, m.reached? modifier.name = some reached →
        GoesOnAs runner s (m.dispatch go) (reached.body ⟨m.command.verb, m.command.bundles, go⟩)) ∧
      (m.reached? modifier.name = none →
        GoesOnAs runner s (m.dispatch go) (m.refuse (Text.lower modifier.name))) := by
  have goesOn := dispatch_goesOn (m := m) go asked
  rw [chosen, reached?_congr same, same] at goesOn
  obtain ⟨first, named⟩ := Option.isSome_iff_exists.mp (named?_isSome declared)
  have reaches : ∀ reached, m.reached? modifier.name = some reached →
      GoesOnAs runner s (m.dispatch go) (reached.body ⟨m.command.verb, m.command.bundles, go⟩) := by
    intro reached found
    simpa only [found] using goesOn
  refine ⟨first, named, fun ascii => ?_, reaches, fun unreached => ?_⟩
  · exact reaches first (reached?_of_named? named ascii)
  · simpa only [unreached] using goesOn

/-- A recorder of a verb that is followed by a word. -/
def recorderOf (word : String) : Recorder :=
  { invocation := { verb := "config", values := .ofList [(Modifier.selector, .text word)] }
    files := .emptyAt [] }

/-- A command with modifiers of the given names. -/
def ofNames (names : List String) : MultiCommand where
  command := { verb := { name := "config" }, body := fun context => context.go, bundles := [] }
  modifiers := names.map fun name => .declare name (fun _ => Script.note name) "" ""

theorem asked_recorderOf (word : String) :
    (Recorder.runner .invocation (recorderOf word)).1.values.text? Modifier.selector = some word := by
  simp [Recorder.runner, recorderOf, Values.text?, KeyMap.ofList, KeyMap.get?_insert_same]

theorem dispatch_reaches_unraised :
    Text.lower "Gét" = Text.lower "GÉT" ∧
    (Recorder.runner .invocation (recorderOf "Gét")).1.values.text? Modifier.selector = some "Gét" ∧
    ((ofNames ["GÉT", "gét"]).named? "GÉT").map (·.name) = some "GÉT" ∧
    GoesOnAs Recorder.runner (recorderOf "Gét") ((ofNames ["GÉT", "gét"]).dispatch .unfinished)
      (Script.note "gét") := by
  have same : Text.lower "Gét" = Text.lower "GÉT" := by decide +kernel
  have asked := asked_recorderOf "Gét"
  have named : ((ofNames ["GÉT", "gét"]).named? "GÉT").map (·.name) = some "GÉT" := by
    decide +kernel
  have declared : .declare "GÉT" (fun _ => Script.note "GÉT") "" "" ∈
      (ofNames ["GÉT", "gét"]).modifiers := List.mem_cons_self
  obtain ⟨-, -, -, reaches, -⟩ :=
    dispatch_reaches .unfinished Recorder.runner (recorderOf "Gét") declared same asked
  have raised : Text.sameIgnoringAsciiCase "GÉT" (Text.lower "GÉT") = false := by decide +kernel
  have plain : Text.sameIgnoringAsciiCase "gét" (Text.lower "GÉT") = true := by decide +kernel
  refine ⟨same, asked, named, reaches (.declare "gét" (fun _ => Script.note "gét") "" "") ?_⟩
  rw [← findModifier?_lower]
  simp [findModifier?, ofNames, Modifier.declare, raised, plain]

/-- A command whose only modifier is É refuses the word É. -/
theorem raised_name_refused :
    let run := ((ofNames ["É"]).dispatch .unfinished).run Recorder.runner (recorderOf "É")
    run.1 = .done () ∧ run.2.events = [] ∧ run.2.errors =
      "ERROR: Invalid \"config\" modifier \"é\". Valid modifiers are listed below:\n  É\n" := by
  decide +kernel

end CommandVerbs.MultiCommand
