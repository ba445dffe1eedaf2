import CommandVerbs.Proofs.Lifecycle.Stages

/-! Unwinding: the bundles below a place are stopped from the last to the first, whatever
fails on the way. The first fault is kept; every later one is reported at once. -/
namespace CommandVerbs.Lifecycle

variable {σ : Type}

def Event.fault? (e : Event) : Option Fault :=
  match e.outcome with
  | .failed fault => some fault
  | _ => none

/-- The faults of a history in the order of time. -/
def faults (history : List Event) : List Fault := history.filterMap (·.fault?)

def Stage.diagnostic? : Stage → Option Diagnostic
  | .report diagnostic => some diagnostic
  | _ => none

/-- What the execution itself reports, in the order of time. -/
def reports (history : List Event) : List Diagnostic := history.filterMap (·.stage.diagnostic?)

def Stage.isStop : Stage → Bool
  | .hook .stop _ => true
  | _ => false

@[simp] theorem faults_nil : faults [] = [] := rfl
@[simp] theorem faults_append : faults (xs ++ ys) = faults xs ++ faults ys := by simp [faults]
@[simp] theorem faults_cons : faults (e :: rest) = e.fault?.toList ++ faults rest := by
  cases here : e.fault? <;> simp [faults, here]
@[simp] theorem fault?_failed : Event.fault? ⟨stage, .failed fault⟩ = some fault := rfl
@[simp] theorem fault?_done : Event.fault? ⟨stage, .done value⟩ = none := rfl

theorem faults_succeeded {history : List Event} (succeeded : ∀ e ∈ history, e.outcome = .done ()) :
    faults history = [] :=
  List.filterMap_eq_nil_iff.mpr fun e member => by simp [Event.fault?, succeeded e member]

@[simp] theorem reports_nil : reports [] = [] := rfl
@[simp] theorem reports_append : reports (xs ++ ys) = reports xs ++ reports ys := by simp [reports]
@[simp] theorem reports_cons :
    reports (e :: rest) = e.stage.diagnostic?.toList ++ reports rest := by
  cases here : e.stage.diagnostic? <;> simp [reports, here]
@[simp] theorem diagnostic?_report : (Stage.report diagnostic).diagnostic? = some diagnostic := rfl
@[simp] theorem diagnostic?_hook : (Stage.hook kind index).diagnostic? = none := rfl
@[simp] theorem diagnostic?_body : Stage.body.diagnostic? = none := rfl

/-- The unwinding of the bundles below a place while a fault may already be kept. It ends with
the fault that is kept, unless a script is cut off. -/
inductive Unwinding (l : Lifecycle) (runner : Runner σ) :
    Nat → Option Fault → List Event → σ → σ → Option (Option Fault) → Prop where
  | finished : Unwinding l runner 0 kept [] s s (some kept)
  | absent : k < l.size → l.script (.hook .stop k) = none →
      Unwinding l runner k kept history s t ending →
      Unwinding l runner (k + 1) kept history s t ending
  | stopped {script : Script Unit} : l.script (.hook .stop k) = some script →
      script.run runner s = (.done (), t) → Unwinding l runner k kept history t u ending →
      Unwinding l runner (k + 1) kept (⟨.hook .stop k, .done ()⟩ :: history) s u ending
  | first {script : Script Unit} : l.script (.hook .stop k) = some script →
      script.run runner s = (.failed fault, t) →
      Unwinding l runner k (some fault) history t u ending →
      Unwinding l runner (k + 1) none (⟨.hook .stop k, .failed fault⟩ :: history) s u ending
  | later {script : Script Unit} : l.script (.hook .stop k) = some script →
      script.run runner s = (.failed fault, t) →
      Unwinding l runner k (some kept) history
        (runner (.report (.stopFailed fault.message)) t).2 u ending →
      Unwinding l runner (k + 1) (some kept)
        (⟨.hook .stop k, .failed fault⟩ ::
          ⟨.report (.stopFailed fault.message), .done ()⟩ :: history) s u ending
  | cut {script : Script Unit} : l.script (.hook .stop k) = some script →
      script.run runner s = (.unfinished, t) →
      Unwinding l runner (k + 1) kept [⟨.hook .stop k, .unfinished⟩] s t none

variable {l : Lifecycle} {runner : Runner σ}

theorem Unwinding.passes (unwinding : Unwinding l runner k kept history s t ending) :
    l.Passes runner history s t := by
  induction unwinding with
  | finished => exact .nil
  | absent _ _ _ ih => exact ih
  | stopped found ran _ ih => exact .cons found ran ih
  | first found ran _ ih => exact .cons found ran ih
  | later found ran _ ih => exact .cons found ran (.cons rfl (Script.run_report ..) ih)
  | cut found ran => exact .single found ran

theorem Unwinding.stages (unwinding : Unwinding l runner k kept history s t ending) :
    ∀ e ∈ history, e.stage.isStop ∨ e.stage.isReport := by
  induction unwinding <;> simp_all [Stage.isStop]

/-- The hooks are gone through in decreasing order, whatever they come to. -/
theorem Unwinding.goesThrough (unwinding : Unwinding l runner k kept history s t ending) :
    GoesThrough (l.hooksBelow .stop k).reverse history := by
  induction unwinding with
  | finished => exact ⟨by simp, by simp⟩
  | absent _ missing _ ih => rwa [hooksBelow_absent missing]
  | stopped found _ _ ih | first found _ _ ih | later found _ _ ih =>
    rw [hooksBelow_found found]
    constructor
    · simpa using ih.order
    · simpa using ih.complete
  | cut found _ =>
    rw [hooksBelow_found found]
    constructor
    · simp
    · simp

/-- Nothing is cut off in an unwinding that ends; it ends with the first of all faults and has
reported the others. -/
theorem Unwinding.accounts (unwinding : Unwinding l runner k kept history s t (some result)) :
    Uncut history ∧ result = (kept.toList ++ faults history).head? ∧
      reports history =
        (kept.toList ++ faults history).tail.map fun fault => .stopFailed fault.message := by
  generalize reached : some result = ending at unwinding
  induction unwinding with
  | finished =>
    cases reached
    cases result <;> simp
  | absent _ _ _ ih => exact ih reached
  | stopped _ _ _ ih => simpa using ih reached
  | first _ _ _ ih => simpa using ih reached
  | later _ _ _ ih => simpa using ih reached
  | cut => cases reached

theorem Unwinding.isCut (unwinding : Unwinding l runner k kept history s t none) :
    ¬Uncut history := by
  generalize reached : none = ending at unwinding
  induction unwinding with
  | finished => cases reached
  | absent _ _ _ ih => exact ih reached
  | stopped _ _ _ ih | first _ _ _ ih | later _ _ _ ih => simpa using ih reached
  | cut => simp

/-- What stopping the bundles comes to. -/
def stopOutcome : Option (Option Fault) → Outcome (Option Fault)
  | none => .unfinished
  | some kept => .done kept

theorem unwinding_exists (l : Lifecycle) (runner : Runner σ) (inside : k ≤ l.size)
    (kept : Option Fault) (s : σ) :
    ∃ history t ending, Unwinding l runner k kept history s t ending := by
  induction k generalizing kept s with
  | zero => exact ⟨[], s, _, .finished⟩
  | succ k ih =>
    have further := ih (Nat.le_of_succ_le inside)
    cases found : l.script (.hook .stop k) with
    | none =>
      obtain ⟨history, t, ending, unwinding⟩ := further kept s
      exact ⟨history, t, ending, .absent inside found unwinding⟩
    | some script =>
      cases ran : script.run runner s with
      | mk outcome t =>
      cases outcome with
      | done _ =>
        obtain ⟨history, u, ending, unwinding⟩ := further kept t
        exact ⟨_, u, ending, .stopped found ran unwinding⟩
      | failed fault =>
        cases kept with
        | none =>
          obtain ⟨history, u, ending, unwinding⟩ := further (some fault) t
          exact ⟨_, u, ending, .first found ran unwinding⟩
        | some kept =>
          obtain ⟨history, u, ending, unwinding⟩ := further (some kept) _
          exact ⟨_, u, ending, .later found ran unwinding⟩
      | unfinished => exact ⟨_, t, _, .cut found ran⟩

/-- The bundles below a place are stopped by an unwinding. -/
theorem Unwinding.stopAll (unwinding : Unwinding l runner k kept history s t ending) :
    (Bundle.stopAll l.command.verb kept (l.command.bundles.take k).reverse).run runner s =
      (stopOutcome ending, t) := by
  induction unwinding with
  | finished => rfl
  | absent inside missing _ ih =>
    obtain ⟨b, _, taken, lacking⟩ := bundle_without_script inside missing
    simp only [taken, List.reverse_concat, Bundle.stopAll_cons, lacking]
    exact ih
  | stopped found ran _ ih | first found ran _ ih | later found ran _ ih =>
    obtain ⟨b, stop, _, taken, provided, rfl⟩ := bundle_of_script found
    simp only [taken, List.reverse_concat, Bundle.stopAll_cons, provided, Script.run_bind,
      Script.run_attempt, ran]
    exact ih
  | cut found ran =>
    obtain ⟨b, stop, _, taken, provided, rfl⟩ := bundle_of_script found
    simp only [taken, List.reverse_concat, Bundle.stopAll_cons, provided, Script.run_bind,
      Script.run_attempt, ran]
    rfl

end CommandVerbs.Lifecycle
