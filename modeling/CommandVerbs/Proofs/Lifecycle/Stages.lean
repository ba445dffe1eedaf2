import CommandVerbs.Proofs.Session.Running
import CommandVerbs.Registry

/-! The lifecycle of a command, taken apart into stages: the hooks of its bundles by their
place, the body, what follows the `go` hooks, and what the execution itself reports. A
history tells which stages were gone through and what became of each. It belongs to an
execution if every stage in it is a run of that stage's own script from where the one
before has led. -/
namespace CommandVerbs

/-- The hooks of a bundle that take part in an execution. -/
inductive Hook where
  | start | go | stop
  deriving DecidableEq, Repr

/-- The hook of a kind, if the bundle takes part with it. -/
def Bundle.hook? (b : Bundle) : Hook → Option (Verb → Script Unit)
  | .start => if b.hooks.start then some b.start else none
  | .go => if b.hooks.go then some b.go else none
  | .stop => if b.hooks.stop then some b.stop else none

theorem Bundle.startAll_cons (v : Verb) (started : List Bundle) (b : Bundle) (rest : List Bundle) :
    startAll v started (b :: rest) =
      match b.hook? .start with
      | none => startAll v (b :: started) rest
      | some start => (start v).attempt >>= fun
        | .ok () => startAll v (b :: started) rest
        | .error fault => .done (started, .error fault) := by
  cases taken : b.hooks.start <;> simp only [startAll, hook?, taken] <;> rfl

theorem Bundle.goAll_cons (v : Verb) (b : Bundle) (rest : List Bundle) :
    goAll v (b :: rest) =
      match b.hook? .go with
      | none => goAll v rest
      | some go => go v >>= fun _ => goAll v rest := by
  cases taken : b.hooks.go <;> simp only [goAll, hook?, taken] <;> rfl

theorem Bundle.stopAll_cons (v : Verb) (first : Option Fault) (b : Bundle) (rest : List Bundle) :
    stopAll v first (b :: rest) =
      match b.hook? .stop with
      | none => stopAll v first rest
      | some stop => (stop v).attempt >>= fun result =>
        match result, first with
        | .ok (), _ => stopAll v first rest
        | .error fault, none => stopAll v (some fault) rest
        | .error fault, some _ =>
          Script.report (.stopFailed fault.message) >>= fun _ => stopAll v first rest := by
  cases taken : b.hooks.stop <;> simp only [stopAll, hook?, taken] <;> rfl

/-- A command, and what its kind of verb does by default after the `go` hooks. -/
structure Lifecycle where
  command : Command
  action : Script Unit

namespace Lifecycle

variable {σ : Type}

inductive Stage where
  | hook (kind : Hook) (index : Nat)
  | body
  | action
  | report (diagnostic : Diagnostic)
  deriving DecidableEq, Repr

structure Event where
  stage : Stage
  outcome : Outcome Unit

def size (l : Lifecycle) : Nat := l.command.bundles.length

/-- What the body can run: the `go` hooks, then the default action. -/
def go (l : Lifecycle) : Script Unit := do
  l.command.goBundles
  l.action

def run (l : Lifecycle) : Script Unit := l.command.run l.go

/-- The script of a stage; a hook that the bundle at its place lacks has none. -/
def script (l : Lifecycle) : Stage → Option (Script Unit)
  | .hook kind index =>
    (l.command.bundles[index]?.bind (·.hook? kind)).map (· l.command.verb)
  | .body => some (l.command.body ⟨l.command.verb, l.command.bundles, l.go⟩)
  | .action => some l.action
  | .report diagnostic => some (Script.report diagnostic)

def provides (l : Lifecycle) (kind : Hook) (index : Nat) : Bool :=
  (l.script (.hook kind index)).isSome

/-- The stages of a history are runs of their scripts, one after the other. -/
inductive Passes (l : Lifecycle) (runner : Runner σ) : List Event → σ → σ → Prop where
  | nil : Passes l runner [] s s
  | cons {script : Script Unit} : l.script stage = some script →
      script.run runner s = (outcome, t) → Passes l runner rest t u →
      Passes l runner (⟨stage, outcome⟩ :: rest) s u

/-- No script in the history was cut off. -/
def Uncut (history : List Event) : Prop := ∀ e ∈ history, e.outcome ≠ .unfinished

def Stage.isReport : Stage → Bool
  | .report _ => true
  | _ => false

/-- The stages gone through, without the reports between them. -/
def performed (history : List Event) : List Stage :=
  (history.map (·.stage)).filter (!·.isReport)

/-- The history goes through the stages in their order, and to the end unless a script was
cut off. -/
structure GoesThrough (stages : List Stage) (history : List Event) : Prop where
  order : performed history <+: stages
  complete : Uncut history → performed history = stages

/-- The place of the first bundle whose hook failed, or the number of bundles if none did. -/
structure LeastFailing (l : Lifecycle) (kind : Hook) (place : Nat) (history : List Event) :
    Prop where
  bound : place ≤ l.size
  before : ∀ i < place, ∀ fault, ⟨.hook kind i, .failed fault⟩ ∉ history
  fails : place < l.size → ∃ fault, ⟨.hook kind place, .failed fault⟩ ∈ history

/-- The hooks of a kind that the bundles before a place provide. -/
def hooksBelow (l : Lifecycle) (kind : Hook) (place : Nat) : List Stage :=
  ((List.range place).filter (l.provides kind)).map (.hook kind)

/-- The stages of an execution in which `k` is the least place whose start fails. -/
def stages (l : Lifecycle) (k : Nat) : List Stage :=
  l.hooksBelow .start (k + 1) ++ (if k = l.size then [.body] else []) ++
    (l.hooksBelow .stop k).reverse

/-- The stages of `go` if `j` is the least place whose hook fails. -/
def goStages (l : Lifecycle) (j : Nat) : List Stage :=
  l.hooksBelow .go (j + 1) ++ (if j = l.size then [.action] else [])

theorem Passes.append {l : Lifecycle} {runner : Runner σ}
    (first : Passes l runner xs s t) (second : Passes l runner ys t u) :
    Passes l runner (xs ++ ys) s u := by
  induction first with
  | nil => exact second
  | cons found ran _ ih => exact .cons found ran (ih second)

theorem Passes.single {l : Lifecycle} {runner : Runner σ} {script : Script Unit}
    (found : l.script stage = some script) (ran : script.run runner s = (outcome, t)) :
    Passes l runner [⟨stage, outcome⟩] s t :=
  .cons found ran .nil

/-- Every stage of a history was run from somewhere. -/
theorem Passes.ran {l : Lifecycle} {runner : Runner σ} (passes : l.Passes runner history s t) :
    ∀ e ∈ history, ∃ script now,
      l.script e.stage = some script ∧ (script.run runner now).1 = e.outcome := by
  induction passes with
  | nil => simp
  | cons found ran _ ih =>
    intro e member
    rcases List.mem_cons.mp member with rfl | later
    · exact ⟨_, _, found, congrArg Prod.fst ran⟩
    · exact ih e later

@[simp] theorem uncut_nil : Uncut [] := by simp [Uncut]

@[simp] theorem uncut_cons : Uncut (e :: rest) ↔ e.outcome ≠ .unfinished ∧ Uncut rest := by
  simp [Uncut]

@[simp] theorem uncut_append : Uncut (xs ++ ys) ↔ Uncut xs ∧ Uncut ys := by
  simp only [Uncut, List.mem_append, or_imp, forall_and]

theorem uncut_succeeded (succeeded : ∀ e ∈ history, e.outcome = .done ()) : Uncut history := by
  intro e member
  simp [succeeded e member]

@[simp] theorem performed_nil : performed [] = [] := rfl

@[simp] theorem performed_cons :
    performed (e :: rest) =
      if e.stage.isReport then performed rest else e.stage :: performed rest := by
  cases reported : e.stage.isReport <;> simp [performed, reported]

@[simp] theorem performed_append : performed (xs ++ ys) = performed xs ++ performed ys := by
  simp [performed]

theorem mem_performed {e : Event} (member : e ∈ history) (counts : e.stage.isReport = false) :
    e.stage ∈ performed history :=
  List.mem_filter.mpr ⟨List.mem_map_of_mem member, by simp [counts]⟩

@[simp] theorem isReport_hook : (Stage.hook kind index).isReport = false := rfl
@[simp] theorem isReport_body : Stage.body.isReport = false := rfl
@[simp] theorem isReport_action : Stage.action.isReport = false := rfl
@[simp] theorem isReport_report : (Stage.report diagnostic).isReport = true := rfl

@[simp] theorem hooksBelow_zero (l : Lifecycle) (kind : Hook) : l.hooksBelow kind 0 = [] := rfl

theorem hooksBelow_succ (l : Lifecycle) (kind : Hook) (place : Nat) :
    l.hooksBelow kind (place + 1) =
      l.hooksBelow kind place ++ if l.provides kind place then [.hook kind place] else [] := by
  cases provided : l.provides kind place <;> simp [hooksBelow, List.range_succ, provided]

theorem hooksBelow_size (l : Lifecycle) (kind : Hook) :
    l.hooksBelow kind (l.size + 1) = l.hooksBelow kind l.size := by
  have missing : l.provides kind l.size = false := by simp [provides, script, size]
  simp [hooksBelow_succ, missing]

theorem hooksBelow_prefix (l : Lifecycle) (kind : Hook) (earlier : a ≤ b) :
    l.hooksBelow kind a <+: l.hooksBelow kind b := by
  induction earlier with
  | refl => exact List.prefix_rfl
  | step _ ih => rw [hooksBelow_succ]; exact ih.trans (List.prefix_append _ _)

theorem hooksBelow_absent {l : Lifecycle} (missing : l.script (.hook kind place) = none) :
    l.hooksBelow kind (place + 1) = l.hooksBelow kind place := by
  simp [hooksBelow_succ, provides, missing]

theorem hooksBelow_found {l : Lifecycle} {script : Script Unit}
    (found : l.script (.hook kind place) = some script) :
    l.hooksBelow kind (place + 1) = l.hooksBelow kind place ++ [.hook kind place] := by
  simp [hooksBelow_succ, provides, found]

theorem script_below_size {l : Lifecycle} {script : Script Unit}
    (found : l.script (.hook kind i) = some script) : i < l.size := by
  apply Decidable.byContradiction
  intro beyond
  have missing : l.command.bundles[i]? = none := List.getElem?_eq_none (Nat.le_of_not_lt beyond)
  simp [Lifecycle.script, missing] at found

theorem bundle_inside {l : Lifecycle} (inside : i < l.size) :
    ∃ b, l.command.bundles[i]? = some b ∧
      l.command.bundles.drop i = b :: l.command.bundles.drop (i + 1) ∧
      l.command.bundles.take (i + 1) = l.command.bundles.take i ++ [b] :=
  ⟨l.command.bundles[i], List.getElem?_eq_getElem inside, List.drop_eq_getElem_cons inside,
    List.take_succ_eq_append_getElem inside⟩

/-- The bundle whose hook a script is. -/
theorem bundle_of_script {l : Lifecycle} {script : Script Unit}
    (found : l.script (.hook kind i) = some script) :
    ∃ b hook, l.command.bundles.drop i = b :: l.command.bundles.drop (i + 1) ∧
      l.command.bundles.take (i + 1) = l.command.bundles.take i ++ [b] ∧
      b.hook? kind = some hook ∧ script = hook l.command.verb := by
  obtain ⟨b, here, rest, taken⟩ := bundle_inside (script_below_size found)
  rw [Lifecycle.script, here] at found
  obtain ⟨hook, provided, rfl⟩ := Option.map_eq_some_iff.mp found
  exact ⟨b, hook, rest, taken, provided, rfl⟩

/-- The bundle at a place where there is no script. -/
theorem bundle_without_script {l : Lifecycle} (inside : i < l.size)
    (missing : l.script (.hook kind i) = none) :
    ∃ b, l.command.bundles.drop i = b :: l.command.bundles.drop (i + 1) ∧
      l.command.bundles.take (i + 1) = l.command.bundles.take i ++ [b] ∧ b.hook? kind = none := by
  obtain ⟨b, here, rest, taken⟩ := bundle_inside inside
  rw [script, here] at missing
  exact ⟨b, rest, taken, Option.map_eq_none_iff.mp missing⟩

/-- What follows without a hook of the kind leaves the first failure where it is. -/
theorem LeastFailing.append {l : Lifecycle} (least : l.LeastFailing kind place xs)
    (others : ∀ e ∈ ys, ∀ i, e.stage ≠ .hook kind i) : l.LeastFailing kind place (xs ++ ys) where
  bound := least.bound
  before i below fault member := by
    rcases List.mem_append.mp member with early | late
    · exact least.before i below fault early
    · exact others _ late i rfl
  fails inside := by
    obtain ⟨fault, member⟩ := least.fails inside
    exact ⟨fault, List.mem_append_left _ member⟩

end Lifecycle

end CommandVerbs
