import CommandVerbs.Proofs.Config.Binding
import CommandVerbs.Proofs.Config.Commands

/-! How settings are set in any store. Pairs are bound one after another, and the first one that is
refused ends the command, so that a command comes to its pairs, as far as they are accepted. -/
namespace CommandVerbs.Config

/-- What the commands about settings see and change of their surroundings. -/
structure StoreView where
  arguments : List String
  store : Store
  /-- whether the store can be saved -/
  saves : Prop
  output : String

/-- A runner with a store and an output that takes every text. `rep view s` says what is seen of the
state `s`. -/
structure StoreHost {σ : Type} (runner : Runner σ) (rep : StoreView → σ → Prop) : Prop where
  /-- settings in memory can always be saved -/
  memory : ∀ view s settings, rep view s → view.store = .memory settings → view.saves
  asked : ∀ view s, rep view s →
    (runner .invocation s).1.values.list argumentName = view.arguments ∧
      rep view (runner .invocation s).2
  looked : ∀ view s key, rep view s →
    (runner (.getSetting key) s).1 = view.store.get? key ∧ rep view (runner (.getSetting key) s).2
  accepted : ∀ view s key value, rep view s → view.saves → view.store.refusal? (key, value) = none →
    (runner (.setSetting key value) s).1 = .ok () ∧
      rep { view with store := view.store.changed (.set key value) } (runner (.setSetting key value) s).2
  refused : ∀ view s key value fault, rep view s → view.store.refusal? (key, value) = some fault →
    (runner (.setSetting key value) s).1 = .error fault ∧ rep view (runner (.setSetting key value) s).2
  unsaved : ∀ view s key value, rep view s → ¬view.saves →
    ∃ fault, (runner (.setSetting key value) s).1 = .error fault
  written : ∀ view s text, rep view s →
    (runner (.write .output text) s).1 = .ok () ∧
      rep { view with output := view.output ++ text } (runner (.write .output text) s).2
  reported : ∀ view s diagnostic, rep view s → rep view (runner (.report diagnostic) s).2

/-- What is seen of a recorder, whose store is in memory. -/
def recordedStore (view : StoreView) (r : Recorder) : Prop :=
  r.invocation.values.list argumentName = view.arguments ∧ view.store = .memory r.settings ∧
    view.saves ∧ r.output = view.output

theorem recorder_storeHost : StoreHost Recorder.runner recordedStore where
  memory _ _ _ seen _ := seen.2.2.1
  asked _ _ seen := ⟨seen.1, seen⟩
  looked := by
    rintro ⟨arguments, _, _, _⟩ r key ⟨same, rfl, saves, rfl⟩
    exact ⟨rfl, same, rfl, saves, rfl⟩
  accepted := by
    rintro ⟨arguments, _, _, _⟩ r key value ⟨same, rfl, saves, rfl⟩ - fine
    have named : Text.trim key ≠ "" := fun blank => by simp [Store.refusal?, blank] at fine
    have answer : Recorder.runner (.setSetting key value) r =
        (.ok (), { r with settings := r.settings.insert key value }) := by
      simp only [Recorder.runner, Recorder.setSetting, Store.setPair, if_neg named]
    rw [answer]
    exact ⟨rfl, same, rfl, saves, rfl⟩
  refused := by
    rintro ⟨arguments, _, _, _⟩ r key value fault ⟨same, rfl, saves, rfl⟩ refused
    obtain ⟨blank, rfl⟩ : Text.trim key = "" ∧ ConfigFault.malformed "empty key" = fault := by
      simpa [Store.refusal?] using refused
    have answer : Recorder.runner (.setSetting key value) r =
        (.error (.malformed "empty key"), r) := by
      simp only [Recorder.runner, Recorder.setSetting, Store.setPair, if_pos blank]
    rw [answer]
    exact ⟨rfl, same, rfl, saves, rfl⟩
  unsaved _ _ _ _ seen stuck := absurd seen.2.2.1 stuck
  written := by
    rintro view r text ⟨same, store, saves, output⟩
    exact ⟨rfl, same, store, saves, congrArg (· ++ text) output⟩
  reported _ _ _ seen := seen

/-- What is seen of a session whose output refuses nothing. -/
def storeInSession {κ τ : Type} (view : StoreView) (s : Session κ (World τ)) : Prop :=
  s.invocation.values.list argumentName = view.arguments ∧ s.world.store = view.store ∧
    (view.saves ↔ view.store.Saves s.world.files) ∧ s.world.output = { text := view.output }

theorem session_storeHost {κ τ : Type} (launcher : Launcher)
    (help : List String → Bool → Except Fault String)
    (package : PackageRequest → World τ → Except Fault (List String) × World τ)
    (port : World.Port κ τ) :
    StoreHost (Session.runner (World.adapters launcher help package port)) storeInSession where
  memory := by
    rintro ⟨_, _, _, _⟩ s settings ⟨-, -, saves, -⟩ rfl
    exact saves.mpr trivial
  asked _ _ seen := ⟨seen.1, seen⟩
  looked _ _ key seen := ⟨congrArg (·.get? key) seen.2.1, seen⟩
  accepted := by
    rintro view s key value ⟨same, store, saves, output⟩ able fine
    obtain ⟨left, made, again⟩ := Store.set_accepted (saves.mp able) fine
    have answer : s.world.setSetting key value = (.ok (),
        { s.world with store := view.store.changed (.set key value), files := left }) := by
      simp only [World.setSetting, store, made]
    simp only [Session.runner, World.adapters, Session.lift, answer, true_and]
    exact ⟨same, rfl, iff_of_true able again, output⟩
  refused := by
    rintro view s key value fault ⟨same, store, saves, output⟩ refused
    have made := Store.set_refused refused s.world.files
    have answer : s.world.setSetting key value = (.error fault, s.world) := by
      simp only [World.setSetting, store, made]
      simp only [← store]
    simp only [Session.runner, World.adapters, Session.lift, answer, true_and]
    exact ⟨same, store, saves, output⟩
  unsaved := by
    rintro view s key value ⟨-, store, saves, -⟩ stuck
    obtain ⟨fault, failed⟩ := Store.set_unsaved (fun able => stuck (saves.mpr able)) (key, value)
    refine ⟨fault, ?_⟩
    simp only [Session.runner, World.adapters, Session.lift, World.setSetting, store, failed]
  written := by
    rintro view s text ⟨same, store, saves, output⟩
    have answer : s.world.write .output text =
        (.ok (), { s.world with output := { text := view.output ++ text } }) := by
      simp only [World.write, output, Sink.write]
    simp only [Session.runner, World.adapters, Session.lift, answer, true_and]
    exact ⟨same, store, saves, rfl⟩
  reported _ _ _ seen := seen

theorem Store.bindAll_memory (settings : KeyMap String) (pairs : List (String × String)) :
    (Store.memory settings).bindAll pairs = .memory (bound settings pairs) := by
  induction pairs generalizing settings with
  | nil => rfl
  | cons pair rest ih =>
    rw [Store.bindAll_cons]
    exact ih (settings.insert pair.1 pair.2)

/-- What a command that ends with a value comes to, unless something is refused. -/
def ended {α : Type} (value : α) : Option ConfigFault → Outcome α
  | none => .done value
  | some fault => .failed (.config fault)

theorem ended_eq_done {α : Type} {value result : α} {refusal : Option ConfigFault}
    (done : ended value refusal = .done result) : refusal = none ∧ value = result := by
  cases refusal with
  | none => exact ⟨rfl, Outcome.done.inj done⟩
  | some reason => contradiction

theorem ended_eq_failed {α : Type} {value : α} {refusal : Option ConfigFault} {fault : Fault}
    (failed : ended value refusal = .failed fault) :
    ∃ reason, refusal = some reason ∧ fault = .config reason := by
  cases refusal with
  | none => contradiction
  | some reason => exact ⟨reason, rfl, (Outcome.failed.inj failed).symm⟩

/-- What is said against arguments that cannot be set. -/
def objection (arguments : List String) : String :=
  if arguments.isEmpty then "At least one argument is required."
  else "Bad arguments (must be KEY=VALUE format):"

namespace StoreHost

variable {σ : Type} {runner : Runner σ} {rep : StoreView → σ → Prop} {view : StoreView} {s : σ}
  {pair : String × String} {fault : ConfigFault} (host : StoreHost runner rep)
include host

theorem takesText (view : StoreView) : TakesText runner fun output s => rep { view with output } s :=
  fun output s text => host.written { view with output } s text

theorem run_setSetting_accepted (seen : rep view s) (saves : view.saves)
    (fine : view.store.refusal? pair = none) :
    ∃ t, (Script.setSetting pair.1 pair.2).run runner s = (.done (), t) ∧
      rep { view with store := view.store.changed (.set pair.1 pair.2) } t := by
  obtain ⟨done, next⟩ := host.accepted view s pair.1 pair.2 seen saves fine
  exact ⟨_, Script.run_setSetting_ok done, next⟩

theorem run_setSetting_refused (seen : rep view s) (refused : view.store.refusal? pair = some fault) :
    ∃ t, (Script.setSetting pair.1 pair.2).run runner s = (.failed (.config fault), t) ∧
      rep view t := by
  obtain ⟨failed, next⟩ := host.refused view s pair.1 pair.2 fault seen refused
  exact ⟨_, Script.run_setSetting_error failed, next⟩

theorem run_setSetting_unsaved (seen : rep view s) (stuck : ¬view.saves) (pair : String × String) :
    ∃ fault t, (Script.setSetting pair.1 pair.2).run runner s = (.failed fault, t) := by
  obtain ⟨fault, failed⟩ := host.unsaved view s pair.1 pair.2 seen stuck
  exact ⟨_, _, Script.run_setSetting_error failed⟩

theorem run_assignAll (pairs : List (String × String)) (seen : rep view s) (saves : view.saves) :
    ∃ t, (pairs.forM Tool.assign).run runner s = (ended () (view.store.fault? pairs), t) ∧
      rep { view with
        store := view.store.bindAll (view.store.accepted pairs)
        output := view.output ++ printed ((view.store.accepted pairs).map
          fun pair => "set " ++ Tool.pairLine pair) } t := by
  induction pairs generalizing view s with
  | nil =>
    refine ⟨s, rfl, ?_⟩
    simpa [printed, Store.accepted, Store.bindAll] using seen
  | cons pair rest ih =>
    rw [Script.forM_cons, Script.run_bind, Tool.assign, Script.run_bind]
    cases verdict : view.store.refusal? pair with
    | some fault =>
      obtain ⟨t, stopped, seen⟩ := host.run_setSetting_refused seen verdict
      obtain ⟨failed, none⟩ := Store.fault?_cons_refused verdict rest
      rw [failed, none, stopped]
      refine ⟨t, rfl, ?_⟩
      simpa [printed, Store.bindAll] using seen
    | none =>
      obtain ⟨u, bound, seen⟩ := host.run_setSetting_accepted seen saves verdict
      obtain ⟨v, told, seen⟩ := (host.takesText { view with
        store := view.store.changed (.set pair.1 pair.2) }).run_writeLine
          ("set " ++ Tool.pairLine pair) seen
      obtain ⟨t, later, seen⟩ := ih seen saves
      obtain ⟨same, others⟩ := Store.fault?_cons_accepted verdict rest
      rw [Store.fault?_changed] at later
      rw [Store.accepted_changed] at seen
      refine ⟨t, ?_, ?_⟩
      · rw [same, bound]
        simp only [told, later]
      · rw [others, Store.bindAll_cons, List.map_cons, printed_cons, ← String.append_assoc]
        exact seen

theorem run_values (seen : rep view s) :
    ∃ values t, Script.values.run runner s = (.done values, t) ∧
      values.list argumentName = view.arguments ∧ rep view t :=
  ⟨_, _, rfl, host.asked view s seen⟩

/-- Where every argument is a pair, setting comes to binding these pairs and showing what was bound. -/
theorem run_set (tool : Tool) (seen : rep view s) (saves : view.saves) (some : view.arguments ≠ [])
    (good : ∀ argument ∈ view.arguments, (tool.assignment? argument).isSome) :
    let pairs := view.arguments.filterMap tool.assignment?
    ∃ t, tool.set.run runner s = (ended () (view.store.fault? pairs), t) ∧
      rep { view with
        store := view.store.bindAll (view.store.accepted pairs)
        output := view.output ++ printed ((view.store.accepted pairs).map
          fun pair => "set " ++ Tool.pairLine pair) } t := by
  obtain ⟨values, u, asked, arguments, seen⟩ := host.run_values seen
  obtain ⟨t, ran, seen⟩ := host.run_assignAll (view.arguments.filterMap tool.assignment?) seen saves
  refine ⟨t, ?_, seen⟩
  rw [Tool.set_eq, Script.run_bind, asked]
  simp only [arguments, Tool.setFrom_pairs some good, ran]

/-- Without arguments, or with one that is no pair, setting changes nothing. -/
theorem set_aborted (tool : Tool) (seen : rep view s) (bad : view.arguments = [] ∨
      ∃ argument ∈ view.arguments, tool.assignment? argument = none) :
    ∃ t, tool.set.run runner s = (.failed (.aborted (objection view.arguments)
        (view.arguments.filter fun argument => (tool.assignment? argument).isNone)), t) ∧
      rep view t := by
  obtain ⟨values, u, asked, arguments, seen⟩ := host.run_values seen
  refine ⟨_, ?_, host.reported view u (.aborted (objection view.arguments)) seen⟩
  rw [Tool.set_eq, Script.run_bind, asked]
  simp only [arguments]
  rcases bad with none | bad
  · rw [none]
    rfl
  · have some : view.arguments ≠ [] := by
      obtain ⟨argument, member, -⟩ := bad
      exact List.ne_nil_of_mem member
    rw [Tool.setFrom_bad bad, objection, if_neg (by simpa using some)]
    rfl

end StoreHost

end CommandVerbs.Config
