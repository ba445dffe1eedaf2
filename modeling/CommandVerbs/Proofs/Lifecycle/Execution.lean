import Mathlib.Data.List.Basic
import CommandVerbs.Proofs.Lifecycle.Sweep
import CommandVerbs.Proofs.Lifecycle.Unwinding

/-! Every execution of a lifecycle has a history: the start of the bundles, the body if all of
them are started, and the stop of those past their start. The history tells how the execution
ends and what it has reported. -/
namespace CommandVerbs.Lifecycle

variable {σ : Type}

/-- Ends with a fault if there is one. -/
def endingWith : Option Fault → Outcome Unit
  | none => .done ()
  | some fault => .failed fault

def faultOf : Except Fault Unit → Option Fault
  | .ok () => none
  | .error fault => some fault

/-- What faults of stopping are reported as. The first of them is reported only if the
execution had failed before, and then at the end. -/
def warnings (failedBefore : Bool) (stopFaults : List Fault) : List Diagnostic :=
  stopFaults.tail.map (fun fault => .stopFailed fault.message) ++
    if failedBefore then
      stopFaults.head?.toList.map fun fault => .stopFailedAfterFault fault.message
    else []

def stopFaults (history : List Event) : List Fault := faults (history.filter (·.stage.isStop))

def earlierFaults (history : List Event) : List Fault := faults (history.filter (!·.stage.isStop))

@[simp] theorem stopFaults_append : stopFaults (xs ++ ys) = stopFaults xs ++ stopFaults ys := by
  simp [stopFaults]

@[simp] theorem earlierFaults_append :
    earlierFaults (xs ++ ys) = earlierFaults xs ++ earlierFaults ys := by
  simp [earlierFaults]

/-- The last part of an execution, entered with what the body or the start came to. -/
def closing (l : Lifecycle) (k : Nat) (result : Except Fault Unit) : Script Unit := do
  let stopped ← Bundle.stopAll l.command.verb none (l.command.bundles.take k).reverse
  Command.conclude result stopped

structure Closing (l : Lifecycle) (runner : Runner σ) (k : Nat) (result : Except Fault Unit)
    (history : List Event) (s : σ) (outcome : Outcome Unit) (t : σ) : Prop where
  passes : l.Passes runner history s t
  goesThrough : GoesThrough (l.hooksBelow .stop k).reverse history
  others : ∀ e ∈ history, e.stage.isStop ∨ e.stage.isReport
  cut : ¬Uncut history → outcome = .unfinished
  ending : Uncut history → outcome = endingWith ((faultOf result).toList ++ faults history).head?
  reported : Uncut history → reports history = warnings (faultOf result).isSome (faults history)

variable {l : Lifecycle} {runner : Runner σ}

theorem closing_history (runner : Runner σ) (k : Nat) (inside : k ≤ l.size)
    (result : Except Fault Unit) (s : σ) :
    ∃ history outcome t, (l.closing k result).run runner s = (outcome, t) ∧
      Closing l runner k result history s outcome t := by
  obtain ⟨history, t, ending, unwinding⟩ := unwinding_exists l runner inside none s
  simp only [closing, Script.run_bind, unwinding.stopAll]
  cases ending with
  | none =>
    exact ⟨history, _, t, rfl, unwinding.passes, unwinding.goesThrough, unwinding.stages,
      fun _ => rfl, fun uncut => absurd uncut unwinding.isCut,
      fun uncut => absurd uncut unwinding.isCut⟩
  | some kept =>
    obtain ⟨uncut, first, reported⟩ := unwinding.accounts
    simp only [Option.toList_none, List.nil_append] at first reported
    cases result with
    | ok _ =>
      refine ⟨history, endingWith kept, t, ?_, unwinding.passes, unwinding.goesThrough,
        unwinding.stages, fun cut => absurd uncut cut, fun _ => ?_, fun _ => ?_⟩
      · cases kept <;> rfl
      · rw [first]
        rfl
      · simpa [warnings, faultOf] using reported
    | error fault =>
      cases kept with
      | none =>
        have none_failed : faults history = [] := List.head?_eq_none_iff.mp first.symm
        refine ⟨history, .failed fault, t, rfl, unwinding.passes, unwinding.goesThrough,
          unwinding.stages, fun cut => absurd uncut cut, fun _ => rfl, fun _ => ?_⟩
        simpa [warnings, none_failed] using reported
      | some stopFault =>
        let last : Event := ⟨.report (.stopFailedAfterFault stopFault.message), .done ()⟩
        refine ⟨history ++ [last], .failed fault, _, rfl,
          unwinding.passes.append (.single rfl (Script.run_report ..)), ⟨?_, ?_⟩, ?_,
          fun cut => absurd ?_ cut, fun _ => rfl, fun _ => ?_⟩
        · simpa [last] using unwinding.goesThrough.order
        · intro _
          simpa [last] using unwinding.goesThrough.complete uncut
        · intro e member
          rcases List.mem_append.mp member with early | late
          · exact unwinding.stages e early
          · rw [List.mem_singleton.mp late]
            exact .inr rfl
        · simpa [last] using uncut
        · simp [last, reported, warnings, faultOf, ← first]

/-- An execution and its history, with `k` the least place whose start failed. -/
structure Chronicle (l : Lifecycle) (runner : Runner σ) (k : Nat) (history : List Event)
    (s : σ) (outcome : Outcome Unit) (t : σ) : Prop where
  passes : l.Passes runner history s t
  failing : l.LeastFailing .start k history
  goesThrough : GoesThrough (l.stages k) history
  cut : ¬Uncut history → outcome = .unfinished
  ending : Uncut history → outcome = endingWith (faults history).head?
  accounts : Uncut history → ∃ before : Option Fault,
    earlierFaults history = before.toList ∧ faults history = before.toList ++ stopFaults history ∧
      reports history = warnings before.isSome (stopFaults history)

/-- The stages up to the end of the body, if it was reached, with what they came to. -/
structure Opening (l : Lifecycle) (runner : Runner σ) (k : Nat) (result : Except Fault Unit)
    (history : List Event) (s t : σ) : Prop where
  passes : l.Passes runner history s t
  failing : l.LeastFailing .start k history
  performed : performed history =
    l.hooksBelow .start (k + 1) ++ if k = l.size then [.body] else []
  uncut : Uncut history
  failures : faults history = (faultOf result).toList
  others : ∀ e ∈ history, e.stage.isStop = false ∧ e.stage.diagnostic? = none

theorem Passes.report_done (passes : l.Passes runner history s t) :
    ∀ e ∈ history, e.stage.isReport → e.fault? = none := by
  intro e member reported
  obtain ⟨script, now, found, came⟩ := passes.ran e member
  cases stage : e.stage with
  | report diagnostic =>
    rw [stage] at found
    obtain rfl := Option.some.inj found
    rw [Event.fault?, ← came]
    rfl
  | _ => simp [stage] at reported

theorem Opening.accounts (opening : Opening l runner k result history s t) :
    stopFaults history = [] ∧ earlierFaults history = (faultOf result).toList ∧
      reports history = [] := by
  refine ⟨?_, ?_, ?_⟩
  · have no_stops : history.filter (·.stage.isStop) = [] := by
      simpa using fun e member => (opening.others e member).1
    rw [stopFaults, no_stops, faults_nil]
  · have all_earlier : history.filter (!·.stage.isStop) = history := by
      simpa using fun e member => (opening.others e member).1
    rw [earlierFaults, all_earlier, opening.failures]
  · simpa [reports] using fun e member => (opening.others e member).2

theorem Closing.accounts (closing : Closing l runner k result history s outcome t) :
    stopFaults history = faults history ∧ earlierFaults history = [] := by
  have faultless : ∀ e ∈ history, e.stage.isStop = false → e.fault? = none := by
    intro e member other
    rcases closing.others e member with stop | reported
    · simp [other] at stop
    · exact closing.passes.report_done e member reported
  constructor
  · rw [stopFaults, faults, faults, List.filterMap_filter]
    apply List.filterMap_congr
    intro e member
    cases stop : e.stage.isStop
    · simp [faultless e member stop]
    · rfl
  · rw [earlierFaults, faults, List.filterMap_filter]
    apply List.filterMap_eq_nil_iff.mpr
    intro e member
    cases stop : e.stage.isStop
    · simpa using faultless e member stop
    · rfl

/-- An opening and the closing after it make up an execution. -/
theorem Opening.chronicle (opening : Opening l runner k result early s m)
    (closing : Closing l runner k result late m outcome t) :
    Chronicle l runner k (early ++ late) s outcome t := by
  obtain ⟨early_stops, early_faults, early_reports⟩ := opening.accounts
  obtain ⟨late_stops, late_faults⟩ := closing.accounts
  constructor
  · exact opening.passes.append closing.passes
  · apply opening.failing.append
    intro e member i same
    have others := closing.others e member
    simp [same, Stage.isStop] at others
  · constructor
    · rw [performed_append, opening.performed, stages, List.prefix_append_right_inj]
      exact closing.goesThrough.order
    · intro uncut
      rw [performed_append, opening.performed,
        closing.goesThrough.complete (uncut_append.mp uncut).2]
      rfl
  · intro cut
    exact closing.cut fun uncut => cut (uncut_append.mpr ⟨opening.uncut, uncut⟩)
  · intro uncut
    rw [closing.ending (uncut_append.mp uncut).2, faults_append, opening.failures]
  · intro uncut
    have reported := closing.reported (uncut_append.mp uncut).2
    refine ⟨faultOf result, ?_, ?_, ?_⟩
    · rw [earlierFaults_append, early_faults, late_faults, List.append_nil]
    · rw [faults_append, stopFaults_append, opening.failures, early_stops, late_stops,
        List.nil_append]
    · rw [reports_append, stopFaults_append, early_reports, early_stops, late_stops, reported]
      rfl

/-- All bundles are started and the body runs to its end. -/
theorem Opening.of_body (result : Except Fault Unit)
    (sweep : Sweep l runner .start 0 history s m none)
    (ran : (l.command.body ⟨l.command.verb, l.command.bundles, l.go⟩).run runner m =
      (endingWith (faultOf result), t)) :
    Opening l runner l.size result (history ++ [⟨.body, endingWith (faultOf result)⟩]) s t := by
  obtain ⟨order, succeeded⟩ := sweep.stages_finished
  constructor
  · exact sweep.passes.append (.single rfl ran)
  · exact sweep.leastFailing.append (by simp)
  · rw [hooksBelow_size, ← order]
    simp
  · rw [uncut_append]
    refine ⟨uncut_succeeded succeeded, ?_⟩
    cases faultOf result <;> simp [endingWith]
  · cases fault : faultOf result <;> simp [faults_succeeded succeeded, endingWith]
  · intro e member
    rcases List.mem_append.mp member with early | last
    · obtain ⟨place, stage⟩ := sweep.kinds e early
      simp [stage, Stage.isStop]
    · rw [List.mem_singleton.mp last]
      exact ⟨rfl, rfl⟩

/-- A bundle fails to start. -/
theorem Opening.of_failure (sweep : Sweep l runner .start 0 history s t (some (k, .failed fault))) :
    Opening l runner k (.error fault) history s t := by
  obtain ⟨_, inside, _, order, earlier, split, succeeded⟩ := sweep.stages_ended
  constructor
  · exact sweep.passes
  · exact sweep.leastFailing
  · rw [← order, if_neg (Nat.ne_of_lt inside)]
    simp
  · rw [split, uncut_append]
    exact ⟨uncut_succeeded succeeded, by simp⟩
  · simp [split, faults_succeeded succeeded, faultOf]
  · intro e member
    obtain ⟨place, stage⟩ := sweep.kinds e member
    simp [stage, Stage.isStop]

/-- An execution that is cut off while bundles are started or in the body. -/
theorem Chronicle.of_cut (passes : l.Passes runner history s t)
    (failing : l.LeastFailing .start l.size history) (cut : ¬Uncut history)
    (order : performed history <+: l.hooksBelow .start l.size ++ [.body]) :
    Chronicle l runner l.size history s .unfinished t := by
  constructor
  · exact passes
  · exact failing
  · constructor
    · refine order.trans ?_
      simp [stages, hooksBelow_size]
    · exact fun uncut => absurd uncut cut
  · exact fun _ => rfl
  · exact fun uncut => absurd uncut cut
  · exact fun uncut => absurd uncut cut

/-- The body and what follows it, once all bundles are started. -/
theorem body_chronicle (sweep : Sweep l runner .start 0 history s m none) :
    ∃ whole, ∃ outcome t,
      (do let result ← (l.command.body ⟨l.command.verb, l.command.bundles, l.go⟩).attempt
          l.closing l.size result : Script Unit).run runner m = (outcome, t) ∧
        Chronicle l runner l.size whole s outcome t := by
  simp only [Script.run_bind, Script.run_attempt]
  cases ran : (l.command.body ⟨l.command.verb, l.command.bundles, l.go⟩).run runner m with
  | mk outcome t =>
  cases outcome with
  | done _ =>
    obtain ⟨late, outcome, u, closed, closing⟩ :=
      closing_history (l := l) runner l.size (Nat.le_refl _) (.ok ()) t
    exact ⟨_, outcome, u, closed, (Opening.of_body (.ok ()) sweep ran).chronicle closing⟩
  | failed fault =>
    obtain ⟨late, outcome, u, closed, closing⟩ :=
      closing_history (l := l) runner l.size (Nat.le_refl _) (.error fault) t
    exact ⟨_, outcome, u, closed,
      (Opening.of_body (.error fault) sweep ran).chronicle closing⟩
  | unfinished =>
    refine ⟨history ++ [⟨.body, .unfinished⟩], _, t, rfl, .of_cut ?_ ?_ ?_ ?_⟩
    · exact sweep.passes.append (.single rfl ran)
    · exact sweep.leastFailing.append (by simp)
    · simp
    · rw [← sweep.stages_finished.1]
      simp

theorem run_chronicle (l : Lifecycle) (runner : Runner σ) (s : σ) :
    ∃ k history outcome t, l.run.run runner s = (outcome, t) ∧
      Chronicle l runner k history s outcome t := by
  obtain ⟨history, m, ending, sweep⟩ := sweep_exists l runner .start s
  have started := sweep.startAll
  rw [List.take_zero, List.reverse_nil, List.drop_zero] at started
  simp only [Lifecycle.run, Command.run, Script.run_bind, started]
  match ending, sweep with
  | none, sweep =>
    have all : l.command.bundles.reverse = (l.command.bundles.take l.size).reverse := by
      rw [size, List.take_length]
    obtain ⟨whole, outcome, t, ran, chronicle⟩ := body_chronicle sweep
    simp only [startOutcome, all]
    exact ⟨l.size, whole, outcome, t, ran, chronicle⟩
  | some (k, .failed fault), sweep =>
    obtain ⟨late, outcome, t, closed, closing⟩ :=
      closing_history (l := l) runner k (Nat.le_of_lt sweep.stages_ended.2.1) (.error fault) m
    exact ⟨k, history ++ late, outcome, t, closed, (Opening.of_failure sweep).chronicle closing⟩
  | some (k, .unfinished), sweep =>
    obtain ⟨_, inside, _, order, earlier, split, _⟩ := sweep.stages_ended
    refine ⟨l.size, history, _, m, rfl, .of_cut sweep.passes sweep.leastFailing ?_ ?_⟩
    · simp [split]
    · simp only [hooksBelow_zero, List.nil_append] at order
      rw [order]
      exact (l.hooksBelow_prefix .start inside).trans (List.prefix_append _ _)
  | some (k, .done _), sweep => exact absurd rfl sweep.stages_ended.2.2.1

end CommandVerbs.Lifecycle
