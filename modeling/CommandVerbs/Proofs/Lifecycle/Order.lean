import CommandVerbs.Proofs.Lifecycle.Execution
import CommandVerbs.Rehearsal.Bundle
import CommandVerbs.Rehearsal.Recorder

/-! The order in which an execution goes through its hooks, and what `go` adds to it each
time the body asks for it. -/
namespace CommandVerbs

/-- The body is the same script whatever `go` is: it never asks for it. -/
def Body.NeverGoes (body : Body) : Prop :=
  ∀ verb bundles go other, body ⟨verb, bundles, go⟩ = body ⟨verb, bundles, other⟩

/-- The lifecycle of a registered verb. After the `go` hooks of a command nothing is left to
do; a command with modifiers goes on with the requested one, which does not ask for `go`. -/
inductive Entry.HasLifecycle : Entry → Lifecycle → Prop where
  | command (c : Command) : HasLifecycle (.command c) ⟨c, .done ()⟩
  | multi (m : MultiCommand) (go : Script Unit)
      (modifiers : ∀ modifier ∈ m.modifiers, Body.NeverGoes modifier.body) :
      HasLifecycle (.multi m) ⟨m.command, m.dispatch go⟩

theorem MultiCommand.dispatch_same (m : MultiCommand)
    (modifiers : ∀ modifier ∈ m.modifiers, Body.NeverGoes modifier.body) (go other : Script Unit) :
    m.dispatch go = m.dispatch other := by
  unfold MultiCommand.dispatch
  congr 1
  funext values
  cases found : m.findModifier? (Text.lower ((values.text? Modifier.selector).getD "")) with
  | some modifier =>
    simpa only [found] using modifiers modifier (List.mem_of_find?_eq_some found) _ _ _ _
  | none => simp only [found]

namespace Lifecycle

variable {σ : Type} {e : Entry} {l : Lifecycle}

theorem execute_eq_run (has : e.HasLifecycle l) (depth : Nat) : e.execute (depth + 1) = l.run := by
  cases has with
  | command c => exact congrArg c.run (Script.bind_done c.goBundles).symm
  | multi m go modifiers =>
    have action : m.dispatch (m.go depth) = m.dispatch go := m.dispatch_same modifiers _ _
    simp only [Entry.execute, MultiCommand.execute, MultiCommand.go, action]
    rfl

/-- Asking for `go` runs the hooks up to the first that fails, and the default action after
them if none does. -/
theorem go_history (l : Lifecycle) (runner : Runner σ) (s : σ) :
    ∃ j history, l.Passes runner history s (l.go.run runner s).2 ∧
      l.LeastFailing .go j history ∧ GoesThrough (l.goStages j) history := by
  obtain ⟨history, m, ending, sweep⟩ := sweep_exists l runner .go s
  have ran := sweep.goAll
  rw [List.drop_zero] at ran
  simp only [go, Command.goBundles, Script.run_bind, ran]
  match ending, sweep with
  | none, sweep =>
    have order := sweep.stages_finished.1
    cases acted : l.action.run runner m with
    | mk outcome t =>
    refine ⟨l.size, history ++ [⟨.action, outcome⟩], ?_, sweep.leastFailing.append (by simp), ?_⟩
    · simp only [goOutcome, acted]
      exact sweep.passes.append (.single rfl acted)
    · have whole : performed (history ++ [⟨.action, outcome⟩]) = l.goStages l.size := by
        simpa [goStages, hooksBelow_size] using order
      exact ⟨whole ▸ List.prefix_rfl, fun _ => whole⟩
  | some (k, .failed fault), sweep =>
    obtain ⟨_, inside, _, order, _⟩ := sweep.stages_ended
    refine ⟨k, history, sweep.passes, sweep.leastFailing, ?_⟩
    have whole : performed history = l.goStages k := by
      simpa [goStages, Nat.ne_of_lt inside] using order
    exact ⟨whole ▸ List.prefix_rfl, fun _ => whole⟩
  | some (k, .unfinished), sweep =>
    obtain ⟨_, inside, _, order, earlier, split, _⟩ := sweep.stages_ended
    refine ⟨l.size, history, sweep.passes, sweep.leastFailing, ?_, ?_⟩
    · rw [goStages, hooksBelow_size]
      rw [hooksBelow_zero, List.nil_append] at order
      rw [order]
      exact (l.hooksBelow_prefix .go inside).trans (List.prefix_append _ _)
    · simp [split]
  | some (k, .done _), sweep => exact absurd rfl sweep.stages_ended.2.2.1

/-- Let `k` be the least place whose start fails. An execution starts the bundles up to there
in increasing order, runs the body if there is no such place, and stops the bundles below `k` in
decreasing order, whatever fails on the way; a hook that is not provided has no part in it. Every
`go` that the body asks for runs the hooks of `go` up to the first that fails, and what the
kind of the verb does by default if none does. -/
theorem execute_in_stages (has : e.HasLifecycle l) (depth : Nat) (runner : Runner σ) (s : σ) :
    (∃ k history, l.Passes runner history s ((e.execute (depth + 1)).run runner s).2 ∧
      l.LeastFailing .start k history ∧ GoesThrough (l.stages k) history) ∧
    ∀ now, ∃ j history, l.Passes runner history now (l.go.run runner now).2 ∧
      l.LeastFailing .go j history ∧ GoesThrough (l.goStages j) history := by
  refine ⟨?_, l.go_history runner⟩
  obtain ⟨k, history, outcome, t, ran, chronicle⟩ := run_chronicle l runner s
  rw [execute_eq_run has, ran]
  exact ⟨k, history, chronicle.passes, chronicle.failing, chronicle.goesThrough⟩

/-- A command with a modifier, the second of whose bundles fails to start. -/
def rehearsed : MultiCommand where
  command :=
    { verb := { name := "verb" }
      body := fun context => context.go
      bundles := [RecordingBundle.bundle { label := "a" },
        RecordingBundle.bundle { label := "b", failsStart := true }] }
  modifiers := [.declare "list" (fun _ => Script.note "list") "lists" ""]

/-- Its lifecycle. -/
def rehearsal : Lifecycle :=
  ⟨rehearsed.command, rehearsed.dispatch (.done ())⟩

/-- What a stage other than the body and the modifier comes to, wherever it is run. -/
theorem rehearsal_outcome {stage : Stage} {script : Script Unit} (body : stage ≠ .body)
    (action : stage ≠ .action) (found : rehearsal.script stage = some script) (now : Recorder) :
    (script.run Recorder.runner now).1 =
      if stage = .hook .start 1 then .failed (.aborted "start(b) failed" []) else .done () := by
  cases stage with
  | hook kind index =>
    match index with
    | 0 | 1 => cases kind <;> (obtain rfl := Option.some.inj found; rfl)
    | _ + 2 => contradiction
  | report diagnostic =>
    obtain rfl := Option.some.inj found
    rfl
  | body => contradiction
  | action => contradiction

theorem execute_in_stages_rehearsed :
    ∃ history, rehearsal.Passes Recorder.runner history { invocation := default, files := default }
        (((Entry.multi rehearsed).execute 1).run Recorder.runner
          { invocation := default, files := default }).2 ∧
      rehearsal.LeastFailing .start 1 history ∧ Uncut history ∧
      performed history = [.hook .start 0, .hook .start 1, .hook .stop 0] := by
  have modifiers : ∀ modifier ∈ rehearsed.modifiers, Body.NeverGoes modifier.body := by
    simp [rehearsed, Modifier.declare, Body.NeverGoes]
  obtain ⟨⟨k, history, passes, failing, through⟩, -⟩ :=
    execute_in_stages (.multi rehearsed (.done ()) modifiers) 0 Recorder.runner
      { invocation := default, files := default }
  have came : ∀ e ∈ history, e.stage ≠ .body → e.stage ≠ .action → e.outcome =
      if e.stage = .hook .start 1 then .failed (.aborted "start(b) failed" []) else .done () := by
    intro e member body action
    obtain ⟨script, now, found, came⟩ := passes.ran e member
    exact came.symm.trans (rehearsal_outcome body action found now)
  have uncut (body : .body ∉ performed history) (action : .action ∉ performed history) :
      Uncut history := by
    intro e member cut
    have here := came e member
      (fun same => body (same ▸ mem_performed member (by rw [same]; rfl)))
      (fun same => action (same ▸ mem_performed member (by rw [same]; rfl)))
    rw [cut] at here
    split at here <;> contradiction
  have two : k ≤ 2 := failing.bound
  match k, two with
  | 0, _ =>
    obtain ⟨fault, member⟩ := failing.fails (by decide)
    exact absurd (came _ member (by simp) (by simp)) (by simp)
  | 1, _ =>
    have order : performed history <+: [.hook .start 0, .hook .start 1, .hook .stop 0] :=
      through.order
    have whole := uncut (fun member => absurd (order.subset member) (by decide))
      (fun member => absurd (order.subset member) (by decide))
    exact ⟨history, passes, failing, whole, through.complete whole⟩
  | 2, _ =>
    -- the second start is gone through, and so it has failed
    have reached : .hook .start 1 ∈ performed history := by
      have first : [.hook .start 0, .hook .start 1] <+: rehearsal.stages 2 := by decide
      rcases List.prefix_or_prefix_of_prefix through.order first with short | long
      · have whole := uncut (fun member => absurd (short.subset member) (by decide))
          (fun member => absurd (short.subset member) (by decide))
        rw [through.complete whole]
        exact first.subset (by decide)
      · exact long.subset (by decide)
    obtain ⟨⟨_, outcome⟩, member, rfl⟩ := List.mem_map.mp (List.mem_of_mem_filter reached)
    obtain rfl : outcome = .failed (.aborted "start(b) failed" []) :=
      came _ member (by simp) (by simp)
    exact absurd member (failing.before 1 (by decide) _)

end Lifecycle

end CommandVerbs
