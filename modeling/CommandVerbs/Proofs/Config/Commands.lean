import CommandVerbs.Config.Store
import CommandVerbs.Config.Tool
import CommandVerbs.Proofs.KeyMap
import CommandVerbs.Proofs.Session.Running
import CommandVerbs.Rehearsal.Recorder
import CommandVerbs.Session.World

/-! How the commands about settings run where the settings are kept in memory. A host answers from
what it represents of its state; setting pairs changes the settings and getting them only the output. -/
namespace CommandVerbs.Config

/-- What the commands about settings see and change of their surroundings. -/
structure View where
  arguments : List String
  settings : KeyMap String
  output : String

/-- A runner with its settings in memory and an output that takes every text. `rep view s` says what
is seen of the state `s`. -/
structure SettingsHost {σ : Type} (runner : Runner σ) (rep : View → σ → Prop) : Prop where
  asked : ∀ view s, rep view s →
    (runner .invocation s).1.values.list argumentName = view.arguments ∧
      rep view (runner .invocation s).2
  listed : ∀ view s filter, rep view s →
    (runner (.listSettings filter) s).1 = (Store.memory view.settings).query filter ∧
      rep view (runner (.listSettings filter) s).2
  stored : ∀ view s key value pairs, rep view s → Store.setPair view.settings key value = .ok pairs →
    (runner (.setSetting key value) s).1 = .ok () ∧
      rep { view with settings := pairs } (runner (.setSetting key value) s).2
  refused : ∀ view s key value fault, rep view s →
    Store.setPair view.settings key value = .error fault →
    (runner (.setSetting key value) s).1 = .error fault
  written : ∀ view s text, rep view s →
    (runner (.write .output text) s).1 = .ok () ∧
      rep { view with output := view.output ++ text } (runner (.write .output text) s).2

/-- What is seen of a recorder. -/
def recorded (view : View) (r : Recorder) : Prop :=
  view = ⟨r.invocation.values.list argumentName, r.settings, r.output⟩

/-- A recorder with the given arguments. -/
def recorderOf (arguments : List String) (settings : KeyMap String) : Recorder :=
  { invocation := { verb := "config", values := .ofList [(argumentName, .list arguments)] }
    settings
    files := .emptyAt [] }

theorem arguments_recorderOf (arguments : List String) (settings : KeyMap String) :
    (recorderOf arguments settings).invocation.values.list argumentName = arguments := by
  simp [recorderOf, Values.list, KeyMap.ofList, KeyMap.get?_insert_same]

/-- A recorder answers from its settings. -/
theorem recorder_host : SettingsHost Recorder.runner recorded where
  asked := by
    rintro _ r rfl
    exact ⟨rfl, rfl⟩
  listed := by
    rintro _ r filter rfl
    exact ⟨rfl, rfl⟩
  stored := by
    rintro _ r key value pairs rfl accepted
    have answer : Recorder.runner (.setSetting key value) r = (.ok (), { r with settings := pairs }) := by
      simp only [Recorder.runner, Recorder.setSetting, accepted]
    rw [answer]
    exact ⟨rfl, rfl⟩
  refused := by
    rintro _ r key value fault rfl accepted
    simp only [Recorder.runner, Recorder.setSetting, accepted]
  written := by
    rintro _ r text rfl
    exact ⟨rfl, rfl⟩

/-- What is seen of a session whose store is in memory and whose output refuses nothing. -/
def inSession {κ τ : Type} (view : View) (s : Session κ (World τ)) : Prop :=
  s.invocation.values.list argumentName = view.arguments ∧ s.world.store = .memory view.settings ∧
    s.world.output = { text := view.output }

/-- So does a session, whatever its launcher, packager and service are. -/
theorem session_host {κ τ : Type} (launcher : Launcher)
    (help : List String → Bool → Except Fault String)
    (package : PackageRequest → World τ → Except Fault (List String) × World τ)
    (port : World.Port κ τ) :
    SettingsHost (Session.runner (World.adapters launcher help package port)) inSession where
  asked _ _ shown := ⟨shown.1, shown⟩
  listed := by
    rintro view s filter ⟨same, store, output⟩
    exact ⟨congrArg (·.query filter) store, same, store, output⟩
  stored := by
    rintro view s key value pairs ⟨same, store, output⟩ accepted
    have answer : s.world.setSetting key value = (.ok (), { s.world with store := .memory pairs }) := by
      simp only [World.setSetting, store, Store.set, accepted]
    simp only [Session.runner, World.adapters, Session.lift, answer, true_and]
    exact ⟨same, rfl, output⟩
  refused := by
    rintro view s key value fault ⟨same, store, output⟩ accepted
    simp only [Session.runner, World.adapters, Session.lift, World.setSetting, store, Store.set, accepted]
  written := by
    rintro view s text ⟨same, store, output⟩
    have answer : s.world.write .output text =
        (.ok (), { s.world with output := { text := view.output ++ text } }) := by
      simp only [World.write, output, Sink.write]
    simp only [Session.runner, World.adapters, Session.lift, answer, true_and]
    exact ⟨same, store, rfl⟩

theorem toList_settingKey (tool : Tool) (name : String) :
    (tool.settingKey name).toList = tool.key.toList ++ '.' :: name.toList := by
  simp [Tool.settingKey]

/-- The lines that tell of the settings under a name of the tool. -/
def Tool.shown (tool : Tool) (settings : KeyMap String) (name : String) : List String :=
  let pairs := (Store.memory settings).query (some (tool.settingKey name))
  if pairs.isEmpty then [name ++ " *not found*"] else pairs.map Tool.pairLine

/-- The lines that tell of all settings, or of those under the given names. -/
def Tool.told (tool : Tool) (settings : KeyMap String) (names : List String) : List String :=
  if names.isEmpty then ((Store.memory settings).query none).map Tool.pairLine
  else names.flatMap (tool.shown settings)

/-- What setting comes to with the given arguments. -/
def Tool.setFrom (tool : Tool) (arguments : List String) : Script Unit :=
  if arguments.isEmpty then Script.abort "At least one argument is required." []
  else
    let bad := arguments.filter fun argument => (tool.assignment? argument).isNone
    if bad.isEmpty then (arguments.filterMap tool.assignment?).forM Tool.assign
    else Script.abort "Bad arguments (must be KEY=VALUE format):" bad

theorem Tool.set_eq (tool : Tool) :
    tool.set = (Script.values >>= fun values => tool.setFrom (values.list argumentName)) := rfl

theorem Tool.setFrom_pairs {tool : Tool} {arguments : List String} (some : arguments ≠ [])
    (pairs : ∀ argument ∈ arguments, (tool.assignment? argument).isSome) :
    tool.setFrom arguments = (arguments.filterMap tool.assignment?).forM Tool.assign := by
  have good : (arguments.filter fun argument => (tool.assignment? argument).isNone) = [] := by
    rw [List.filter_eq_nil_iff]
    intro argument member
    simp [Option.isSome_iff_ne_none.mp (pairs argument member)]
  simp [setFrom, some, good]

theorem Tool.setFrom_bad {tool : Tool} {arguments : List String} (bad : ∃ argument ∈ arguments,
      tool.assignment? argument = none) :
    tool.setFrom arguments = Script.abort "Bad arguments (must be KEY=VALUE format):"
      (arguments.filter fun argument => (tool.assignment? argument).isNone) := by
  obtain ⟨argument, member, none⟩ := bad
  have found : argument ∈ arguments.filter fun argument => (tool.assignment? argument).isNone := by
    simp [member, none]
  simp [setFrom, List.ne_nil_of_mem member, List.ne_nil_of_mem found]

/-- The texts of lines that are written one after another. -/
def printed (lines : List String) : String :=
  String.join (lines.map (· ++ "\n"))

/-- The settings once pairs have been bound in order. -/
def bound (settings : KeyMap String) (pairs : List (String × String)) : KeyMap String :=
  pairs.foldl (fun m pair => m.insert pair.1 pair.2) settings

theorem printed_cons (line : String) (lines : List String) :
    printed (line :: lines) = line ++ "\n" ++ printed lines := String.join_cons

theorem printed_append (lines more : List String) :
    printed (lines ++ more) = printed lines ++ printed more := by
  induction lines with
  | nil => simp [printed]
  | cons line rest ih => rw [List.cons_append, printed_cons, ih, printed_cons, ← String.append_assoc]

/-- The output takes every text; `shown` says what it holds. -/
def TakesText {σ : Type} (runner : Runner σ) (shown : String → σ → Prop) : Prop :=
  ∀ output s text, shown output s →
    (runner (.write .output text) s).1 = .ok () ∧
      shown (output ++ text) (runner (.write .output text) s).2

namespace TakesText

variable {σ : Type} {runner : Runner σ} {shown : String → σ → Prop} {output : String} {s : σ}
  (takes : TakesText runner shown)
include takes

theorem run_writeLine (line : String) (seen : shown output s) :
    ∃ t, (Script.writeLine line).run runner s = (.done (), t) ∧ shown (output ++ (line ++ "\n")) t := by
  obtain ⟨accepted, next⟩ := takes output s (line ++ "\n") seen
  exact ⟨_, Script.run_writeLine_ok accepted, next⟩

theorem run_writeLines (lines : List String) (seen : shown output s) :
    ∃ t, (lines.forM Script.writeLine).run runner s = (.done (), t) ∧
      shown (output ++ printed lines) t := by
  induction lines generalizing output s with
  | nil =>
    refine ⟨s, rfl, ?_⟩
    simpa [printed] using seen
  | cons line rest ih =>
    obtain ⟨u, first, seen⟩ := takes.run_writeLine line seen
    obtain ⟨t, later, seen⟩ := ih seen
    refine ⟨t, ?_, ?_⟩
    · rw [Script.forM_cons, Script.run_bind, first]
      exact later
    · rw [printed_cons, ← String.append_assoc]
      exact seen

/-- A blank line comes before every message. -/
theorem run_messages (messages : List String) (seen : shown output s) :
    ∃ t, (messages.forM fun message => do
        Script.writeLine ""
        Script.writeLine message).run runner s = (.done (), t) ∧
      shown (output ++ printed (messages.flatMap fun message => ["", message])) t := by
  induction messages generalizing output s with
  | nil =>
    refine ⟨s, rfl, ?_⟩
    simpa [printed] using seen
  | cons message rest ih =>
    obtain ⟨u, blank, seen⟩ := takes.run_writeLine "" seen
    obtain ⟨v, first, seen⟩ := takes.run_writeLine message seen
    obtain ⟨t, later, seen⟩ := ih seen
    refine ⟨t, ?_, ?_⟩
    · rw [Script.forM_cons, Script.run_bind, Script.run_bind, blank]
      simp only [first, later]
    · rw [List.flatMap_cons, List.cons_append, printed_cons, List.cons_append, printed_cons,
        ← String.append_assoc, ← String.append_assoc]
      exact seen

/-- What is told to the user is written, too. -/
theorem run_inform (message : String) (details : List String) (seen : shown output s) :
    ∃ t, (Script.inform message details).run runner s = (.done (), t) ∧
      shown (output ++ Script.messageText "INFO" message details) t :=
  ⟨_, rfl, (takes output s _ seen).2⟩

end TakesText

namespace SettingsHost

variable {σ : Type} {runner : Runner σ} {rep : View → σ → Prop} {view : View} {s : σ}
  (host : SettingsHost runner rep)
include host

theorem takesText (view : View) : TakesText runner fun output s => rep { view with output } s :=
  fun output s text => host.written { view with output } s text

theorem run_writeLine (line : String) (seen : rep view s) :
    ∃ t, (Script.writeLine line).run runner s = (.done (), t) ∧
      rep { view with output := view.output ++ (line ++ "\n") } t :=
  (host.takesText view).run_writeLine line seen

theorem run_writeLines (lines : List String) (seen : rep view s) :
    ∃ t, (lines.forM Script.writeLine).run runner s = (.done (), t) ∧
      rep { view with output := view.output ++ printed lines } t :=
  (host.takesText view).run_writeLines lines seen

theorem run_values (seen : rep view s) :
    ∃ values t, Script.values.run runner s = (.done values, t) ∧
      values.list argumentName = view.arguments ∧ rep view t :=
  ⟨_, _, rfl, host.asked view s seen⟩

theorem run_linesUnder (tool : Tool) (names : List String) (seen : rep view s) :
    ∃ t, (names.mapM tool.linesUnder).run runner s =
      (.done (names.map (tool.shown view.settings)), t) ∧ rep view t := by
  induction names generalizing s with
  | nil => exact ⟨s, rfl, seen⟩
  | cons name rest ih =>
    obtain ⟨listed, next⟩ := host.listed view s (some (tool.settingKey name)) seen
    have first : (tool.linesUnder name).run runner s = (.done (tool.shown view.settings name),
        (runner (.listSettings (some (tool.settingKey name))) s).2) := by
      rw [Tool.shown, ← listed]
      rfl
    obtain ⟨t, later, after⟩ := ih next
    refine ⟨t, ?_, after⟩
    rw [List.mapM_cons, Script.run_bind, first]
    simp only [Script.run_bind, later]
    rfl

theorem run_get (tool : Tool) (seen : rep view s) :
    ∃ t, tool.get.run runner s = (.done (), t) ∧
      rep { view with output := view.output ++ printed (tool.told view.settings view.arguments) } t := by
  obtain ⟨values, u, asked, arguments, seen⟩ := host.run_values seen
  have lines : ∃ v, (tool.linesOf view.arguments).run runner u =
      (.done (tool.told view.settings view.arguments), v) ∧ rep view v := by
    unfold Tool.linesOf Tool.told
    by_cases all : view.arguments.isEmpty
    · obtain ⟨listed, next⟩ := host.listed view u none seen
      refine ⟨_, ?_, next⟩
      rw [if_pos all, if_pos all, ← listed]
      rfl
    · obtain ⟨v, run, next⟩ := host.run_linesUnder tool view.arguments seen
      refine ⟨v, ?_, next⟩
      rw [if_neg all, if_neg all, Script.run_bind, run, List.flatMap_def]
      rfl
  obtain ⟨v, found, seen⟩ := lines
  obtain ⟨t, wrote, seen⟩ := host.run_writeLines (tool.told view.settings view.arguments) seen
  refine ⟨t, ?_, seen⟩
  rw [Tool.get, Script.run_bind, asked]
  simp only [arguments, Script.run_bind, found, wrote]

/-- A value is bound under every key that is not blank. -/
theorem run_setSetting {key : String} (value : String) (seen : rep view s)
    (named : Text.trim key ≠ "") :
    ∃ t, (Script.setSetting key value).run runner s = (.done (), t) ∧
      rep { view with settings := view.settings.insert key value } t := by
  have kept : Store.setPair view.settings key value = .ok (view.settings.insert key value) :=
    if_neg named
  obtain ⟨accepted, seen⟩ := host.stored view s key value _ seen kept
  exact ⟨_, Script.run_setSetting_ok accepted, seen⟩

/-- A pair is bound and shown if its key is not blank. -/
theorem run_assign_named {pair : String × String} (seen : rep view s)
    (named : Text.trim pair.1 ≠ "") :
    ∃ t, (Tool.assign pair).run runner s = (.done (), t) ∧
      rep { view with
        settings := view.settings.insert pair.1 pair.2
        output := view.output ++ ("set " ++ Tool.pairLine pair ++ "\n") } t := by
  obtain ⟨u, stored, seen⟩ := host.run_setSetting pair.2 seen named
  obtain ⟨t, shown, seen⟩ := host.run_writeLine ("set " ++ Tool.pairLine pair) seen
  refine ⟨t, ?_, seen⟩
  rw [Tool.assign, Script.run_bind, stored]
  exact shown

/-- A pair that is accepted is bound and shown. -/
theorem run_assign {pair : String × String} (seen : rep view s)
    (done : ((Tool.assign pair).run runner s).1 = .done ()) :
    ∃ t, (Tool.assign pair).run runner s = (.done (), t) ∧
      rep { view with
        settings := view.settings.insert pair.1 pair.2
        output := view.output ++ ("set " ++ Tool.pairLine pair ++ "\n") } t := by
  refine host.run_assign_named seen fun blank => ?_
  -- nothing is shown of a pair that is refused
  have refused := host.refused view s pair.1 pair.2 (.malformed "empty key") seen (if_pos blank)
  rw [Tool.assign, Script.run_bind, Script.run_setSetting_error refused] at done
  contradiction

/-- Pairs are all accepted if none of their keys is blank. -/
theorem assignAll_done (pairs : List (String × String)) (seen : rep view s)
    (named : ∀ pair ∈ pairs, Text.trim pair.1 ≠ "") :
    ((pairs.forM Tool.assign).run runner s).1 = .done () := by
  induction pairs generalizing view s with
  | nil => rfl
  | cons pair rest ih =>
    obtain ⟨first, named⟩ := List.forall_mem_cons.mp named
    obtain ⟨u, bound, seen⟩ := host.run_assign_named seen first
    rw [Script.forM_cons, Script.run_bind, bound]
    exact ih seen named

theorem run_assignAll (pairs : List (String × String)) (seen : rep view s)
    (done : ((pairs.forM Tool.assign).run runner s).1 = .done ()) :
    ∃ t, (pairs.forM Tool.assign).run runner s = (.done (), t) ∧
      rep { view with
        settings := bound view.settings pairs
        output := view.output ++ printed (pairs.map fun pair => "set " ++ Tool.pairLine pair) } t := by
  induction pairs generalizing view s with
  | nil =>
    refine ⟨s, rfl, ?_⟩
    simpa [printed, bound] using seen
  | cons pair rest ih =>
    rw [Script.forM_cons, Script.run_bind] at done
    have first : ((Tool.assign pair).run runner s).1 = .done () := by
      rcases run : (Tool.assign pair).run runner s with ⟨⟨⟩ | fault | _, u⟩
      · rfl
      · simp [run] at done
      · simp [run] at done
    obtain ⟨u, first, seen⟩ := host.run_assign seen first
    rw [first] at done
    obtain ⟨t, later, seen⟩ := ih seen done
    refine ⟨t, ?_, ?_⟩
    · rw [Script.forM_cons, Script.run_bind, first]
      exact later
    · rw [List.map_cons, printed_cons, ← String.append_assoc]
      exact seen

/-- What setting comes to once the arguments are known. -/
theorem run_set_start (tool : Tool) (seen : rep view s) :
    ∃ u, rep view u ∧ tool.set.run runner s = (tool.setFrom view.arguments).run runner u := by
  obtain ⟨values, u, asked, arguments, seen⟩ := host.run_values seen
  refine ⟨u, seen, ?_⟩
  rw [Tool.set_eq, Script.run_bind, asked, ← arguments]

/-- Setting succeeds only if every argument is a pair, and then binds and shows them all. -/
theorem run_set (tool : Tool) (seen : rep view s) (done : (tool.set.run runner s).1 = .done ()) :
    (∀ argument ∈ view.arguments, (tool.assignment? argument).isSome) ∧
    ∃ t, tool.set.run runner s = (.done (), t) ∧
      rep { view with
        settings := bound view.settings (view.arguments.filterMap tool.assignment?)
        output := view.output ++ printed ((view.arguments.filterMap tool.assignment?).map
          fun pair => "set " ++ Tool.pairLine pair) } t := by
  obtain ⟨u, seen, start⟩ := host.run_set_start tool seen
  rw [start] at done ⊢
  by_cases none : view.arguments = []
  · rw [none] at done
    contradiction
  by_cases pairs : ∀ argument ∈ view.arguments, (tool.assignment? argument).isSome
  · rw [Tool.setFrom_pairs none pairs] at done ⊢
    exact ⟨pairs, host.run_assignAll _ seen done⟩
  · push Not at pairs
    rw [Tool.setFrom_bad (by simpa using pairs)] at done
    contradiction

/-- Setting succeeds if there are arguments and each of them is a pair whose key is not blank. -/
theorem set_done (tool : Tool) (seen : rep view s) (some : view.arguments ≠ [])
    (pairs : ∀ argument ∈ view.arguments, ∃ pair, tool.assignment? argument = .some pair ∧
      Text.trim pair.1 ≠ "") : (tool.set.run runner s).1 = .done () := by
  obtain ⟨u, seen, start⟩ := host.run_set_start tool seen
  have good : ∀ argument ∈ view.arguments, (tool.assignment? argument).isSome := by
    intro argument member
    obtain ⟨pair, given, -⟩ := pairs argument member
    simp [given]
  rw [start, Tool.setFrom_pairs some good]
  refine host.assignAll_done _ seen fun pair member => ?_
  obtain ⟨argument, inside, given⟩ := List.mem_filterMap.mp member
  obtain ⟨_, same, named⟩ := pairs argument inside
  exact Option.some.inj (same.symm.trans given) ▸ named

end SettingsHost

end CommandVerbs.Config
