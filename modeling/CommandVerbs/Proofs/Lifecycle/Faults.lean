import CommandVerbs.Proofs.Lifecycle.Execution

/-! No fault of an execution is lost: the first in time is its outcome, and each of the others
is reported. -/
namespace CommandVerbs.Lifecycle

variable {σ : Type}

/-- One fault is the outcome, and there is a warning for each of the others. -/
theorem warnings_length (before : Option Fault) (stopFaults : List Fault) :
    (warnings before.isSome stopFaults).length = (before.toList ++ stopFaults).length - 1 := by
  cases before <;> cases stopFaults <;> simp [warnings]

theorem warnings_severity (failedBefore : Bool) (stopFaults : List Fault) :
    ∀ d ∈ warnings failedBefore stopFaults, d.severity = .warn := by
  intro d member
  rcases List.mem_append.mp member with later | first
  · obtain ⟨fault, _, rfl⟩ := List.mem_map.mp later
    rfl
  · cases failedBefore
    · simp at first
    · obtain ⟨fault, _, rfl⟩ := List.mem_map.mp first
      rfl

theorem faults_eq_nil (uncut : Uncut history) :
    faults history = [] ↔ ∀ e ∈ history, e.outcome = .done () := by
  constructor
  · intro none_failed e member
    have faultless := List.filterMap_eq_nil_iff.mp none_failed e member
    cases outcome : e.outcome with
    | done _ => rfl
    | failed fault => simp [Event.fault?, outcome] at faultless
    | unfinished => exact absurd outcome (uncut e member)
  · exact faults_succeeded

@[simp] theorem endingWith_done : endingWith fault? = .done () ↔ fault? = none := by
  cases fault? <;> simp [endingWith]

@[simp] theorem endingWith_failed : endingWith fault? = .failed fault ↔ fault? = some fault := by
  cases fault? <;> simp [endingWith]

@[simp] theorem endingWith_unfinished : endingWith fault? ≠ .unfinished := by
  cases fault? <;> simp [endingWith]

/-- An execution that comes to an end succeeds if and only if every start, the body and every
stop that it went through succeeded. It fails with the fault that was first in time. A fault
before the stops comes first of all, and there is at most one. Of the faults of stopping, each
one that is not the outcome is reported exactly once, as a warning, and nothing else is
reported. -/
theorem run_loses_no_fault (l : Lifecycle) (runner : Runner σ) (s : σ) :
    ∃ k history, l.Passes runner history s (l.run.run runner s).2 ∧
      l.LeastFailing .start k history ∧ GoesThrough (l.stages k) history ∧
      ((l.run.run runner s).1 = .unfinished ↔ ¬Uncut history) ∧
      (Uncut history →
        ((l.run.run runner s).1 = .done () ↔ ∀ e ∈ history, e.outcome = .done ()) ∧
        (∀ fault, (l.run.run runner s).1 = .failed fault ↔ (faults history).head? = some fault) ∧
        ∃ before : Option Fault, earlierFaults history = before.toList ∧
          faults history = before.toList ++ stopFaults history ∧
          reports history = warnings before.isSome (stopFaults history) ∧
          (reports history).length = (faults history).length - 1 ∧
          ∀ d ∈ reports history, d.severity = .warn) := by
  obtain ⟨k, history, outcome, t, ran, chronicle⟩ := run_chronicle l runner s
  rw [ran]
  refine ⟨k, history, chronicle.passes, chronicle.failing, chronicle.goesThrough, ?_, ?_⟩
  · refine ⟨fun unfinished uncut => ?_, chronicle.cut⟩
    exact endingWith_unfinished ((chronicle.ending uncut).symm.trans unfinished)
  · intro uncut
    obtain ⟨before, earlier, inOrder, reported⟩ := chronicle.accounts uncut
    refine ⟨?_, fun fault => ?_, before, earlier, inOrder, reported, ?_, ?_⟩
    · simp only [chronicle.ending uncut, endingWith_done, List.head?_eq_none_iff,
        faults_eq_nil uncut]
    · simp only [chronicle.ending uncut, endingWith_failed]
    · rw [reported, inOrder, warnings_length]
    · rw [reported]
      exact warnings_severity _ _

end CommandVerbs.Lifecycle
