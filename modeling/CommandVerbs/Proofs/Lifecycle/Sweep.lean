import CommandVerbs.Proofs.Lifecycle.Stages

/-! Sweeps: the hooks of one kind in increasing order, up to and including the first that
does not succeed. Both the start of the bundles and their `go` are sweeps. -/
namespace CommandVerbs.Lifecycle

variable {σ : Type}

/-- A sweep from a place on. It ends at the last bundle, or at a hook with another outcome
than success. -/
inductive Sweep (l : Lifecycle) (runner : Runner σ) (kind : Hook) :
    Nat → List Event → σ → σ → Option (Nat × Outcome Unit) → Prop where
  | finished : Sweep l runner kind l.size [] s s none
  | absent : i < l.size → l.script (.hook kind i) = none →
      Sweep l runner kind (i + 1) history s t ending → Sweep l runner kind i history s t ending
  | passed {script : Script Unit} : l.script (.hook kind i) = some script →
      script.run runner s = (.done (), t) →
      Sweep l runner kind (i + 1) history t u ending →
      Sweep l runner kind i (⟨.hook kind i, .done ()⟩ :: history) s u ending
  | ended {script : Script Unit} : l.script (.hook kind i) = some script →
      script.run runner s = (outcome, t) → outcome ≠ .done () →
      Sweep l runner kind i [⟨.hook kind i, outcome⟩] s t (some (i, outcome))

variable {l : Lifecycle} {runner : Runner σ} {kind : Hook}

theorem Sweep.passes (sweep : Sweep l runner kind i history s t ending) :
    l.Passes runner history s t := by
  induction sweep with
  | finished => exact .nil
  | absent _ _ _ ih => exact ih
  | passed found ran _ ih => exact .cons found ran ih
  | ended found ran _ => exact .single found ran

/-- A sweep that ends at the last bundle goes through every hook there is. -/
theorem Sweep.stages_finished (sweep : Sweep l runner kind i history s t none) :
    l.hooksBelow kind i ++ performed history = l.hooksBelow kind l.size ∧
      ∀ e ∈ history, e.outcome = .done () := by
  generalize reached : none = ending at sweep
  induction sweep with
  | finished => simp
  | @absent i history s t ending _ missing _ ih =>
    rw [← hooksBelow_absent missing]
    exact ih reached
  | @passed i s t history u ending script found _ _ ih =>
    obtain ⟨order, succeeded⟩ := ih reached
    refine ⟨?_, by simpa using succeeded⟩
    rw [← order, hooksBelow_found found]
    simp
  | ended => cases reached

/-- A sweep that ends at a place goes through the hooks up to there; all but the last succeed. -/
theorem Sweep.stages_ended (sweep : Sweep l runner kind i history s t (some (k, outcome))) :
    i ≤ k ∧ k < l.size ∧ outcome ≠ .done () ∧
      l.hooksBelow kind i ++ performed history = l.hooksBelow kind (k + 1) ∧
      ∃ earlier, history = earlier ++ [⟨.hook kind k, outcome⟩] ∧
        ∀ e ∈ earlier, e.outcome = .done () := by
  generalize reached : some (k, outcome) = ending at sweep
  induction sweep with
  | finished => cases reached
  | @absent i history s t ending _ missing _ ih =>
    obtain ⟨later, rest⟩ := ih reached
    rw [hooksBelow_absent missing] at rest
    exact ⟨Nat.le_of_succ_le later, rest⟩
  | @passed i s t history u ending script found _ _ ih =>
    obtain ⟨later, inside, unsuccessful, order, earlier, rfl, succeeded⟩ := ih reached
    refine ⟨Nat.le_of_succ_le later, inside, unsuccessful, ?_, ⟨_, _⟩ :: earlier, rfl, ?_⟩
    · rw [← order, hooksBelow_found found]
      simp
    · simpa using succeeded
  | @ended i s outcome t script found _ unsuccessful =>
    obtain ⟨rfl, rfl⟩ := Prod.mk.inj (Option.some.inj reached)
    refine ⟨Nat.le_refl _, script_below_size found, unsuccessful, ?_, [], rfl, by simp⟩
    simp [hooksBelow_found found]

theorem Sweep.kinds (sweep : Sweep l runner kind i history s t ending) :
    ∀ e ∈ history, ∃ place, e.stage = .hook kind place := by
  induction sweep <;> simp_all

/-- Only the hook where a sweep ends can have failed. -/
theorem Sweep.failed_at (sweep : Sweep l runner kind i history s t ending)
    (member : ⟨.hook kind place, .failed fault⟩ ∈ history) :
    ending = some (place, .failed fault) := by
  induction sweep with
  | finished => simp at member
  | absent _ _ _ ih => exact ih member
  | passed _ _ _ ih => exact ih (by simpa using member)
  | ended => simp_all

/-- The place where a sweep failed; it is the number of bundles if none did. -/
def failedPlace (l : Lifecycle) : Option (Nat × Outcome Unit) → Nat
  | some (k, .failed _) => k
  | _ => l.size

theorem Sweep.leastFailing (sweep : Sweep l runner kind i history s t ending) :
    l.LeastFailing kind (l.failedPlace ending) history := by
  constructor
  · match ending, sweep with
    | none, _ | some (_, .done _), _ | some (_, .unfinished), _ => exact Nat.le_refl _
    | some (k, .failed _), sweep => exact Nat.le_of_lt sweep.stages_ended.2.1
  · intro place below fault member
    cases sweep.failed_at member
    exact absurd below (Nat.lt_irrefl _)
  · intro inside
    match ending, sweep with
    | none, _ | some (_, .done _), _ | some (_, .unfinished), _ =>
      exact absurd inside (Nat.lt_irrefl _)
    | some (k, .failed fault), sweep =>
      obtain ⟨_, _, _, _, earlier, rfl, _⟩ := sweep.stages_ended
      exact ⟨fault, by simp [failedPlace]⟩

theorem sweep_exists (l : Lifecycle) (runner : Runner σ) (kind : Hook) (s : σ) :
    ∃ history t ending, Sweep l runner kind 0 history s t ending := by
  suffices from_place : ∀ n i s, i + n = l.size →
      ∃ history t ending, Sweep l runner kind i history s t ending from
    from_place l.size 0 s (Nat.zero_add _)
  -- On the number of bundles that are left.
  intro n
  induction n with
  | zero =>
    rintro i s rfl
    exact ⟨[], s, none, .finished⟩
  | succ n ih =>
    intro i s places
    have further : ∀ t, _ := fun t => ih (i + 1) t (by omega)
    cases found : l.script (.hook kind i) with
    | none =>
      obtain ⟨history, t, ending, sweep⟩ := further s
      exact ⟨history, t, ending, .absent (by omega) found sweep⟩
    | some script =>
      cases ran : script.run runner s with
      | mk outcome t =>
      cases outcome with
      | done _ =>
        obtain ⟨history, u, ending, sweep⟩ := further t
        exact ⟨_, u, ending, .passed found ran sweep⟩
      | failed fault => exact ⟨_, t, _, .ended found ran (by simp)⟩
      | unfinished => exact ⟨_, t, _, .ended found ran (by simp)⟩

/-- What starting the bundles comes to: those past their start, the last one first. -/
def startOutcome (l : Lifecycle) :
    Option (Nat × Outcome Unit) → Outcome (List Bundle × Except Fault Unit)
  | none => .done (l.command.bundles.reverse, .ok ())
  | some (k, .failed fault) => .done ((l.command.bundles.take k).reverse, .error fault)
  | some (_, _) => .unfinished

/-- The bundles are started by a sweep. -/
theorem Sweep.startAll (sweep : Sweep l runner .start i history s t ending) :
    (Bundle.startAll l.command.verb (l.command.bundles.take i).reverse
      (l.command.bundles.drop i)).run runner s = (l.startOutcome ending, t) := by
  induction sweep with
  | finished =>
    rw [size, List.drop_length, List.take_length]
    rfl
  | absent inside missing _ ih =>
    obtain ⟨b, rest, taken, lacking⟩ := bundle_without_script inside missing
    rw [taken, List.reverse_append] at ih
    simp only [rest, Bundle.startAll_cons, lacking]
    exact ih
  | passed found ran _ ih =>
    obtain ⟨b, start, rest, taken, provided, rfl⟩ := bundle_of_script found
    rw [taken, List.reverse_append] at ih
    simp only [rest, Bundle.startAll_cons, provided, Script.run_bind, Script.run_attempt, ran]
    exact ih
  | @ended i s outcome t script found ran unsuccessful =>
    obtain ⟨b, start, rest, _, provided, rfl⟩ := bundle_of_script found
    simp only [rest, Bundle.startAll_cons, provided, Script.run_bind, Script.run_attempt, ran]
    cases outcome with
    | done _ => exact absurd rfl unsuccessful
    | failed fault => rfl
    | unfinished => rfl

/-- The outcome of the `go` hooks: that of the hook where the sweep ended. -/
def goOutcome : Option (Nat × Outcome Unit) → Outcome Unit
  | none => .done ()
  | some (_, outcome) => outcome

/-- The `go` hooks are run by a sweep. -/
theorem Sweep.goAll (sweep : Sweep l runner .go i history s t ending) :
    (Bundle.goAll l.command.verb (l.command.bundles.drop i)).run runner s =
      (goOutcome ending, t) := by
  induction sweep with
  | finished =>
    rw [size, List.drop_length]
    rfl
  | absent inside missing _ ih =>
    obtain ⟨b, rest, _, lacking⟩ := bundle_without_script inside missing
    simp only [rest, Bundle.goAll_cons, lacking]
    exact ih
  | passed found ran _ ih =>
    obtain ⟨b, go, rest, _, provided, rfl⟩ := bundle_of_script found
    simp only [rest, Bundle.goAll_cons, provided, Script.run_bind, ran]
    exact ih
  | @ended i s outcome t script found ran unsuccessful =>
    obtain ⟨b, go, rest, _, provided, rfl⟩ := bundle_of_script found
    simp only [rest, Bundle.goAll_cons, provided, Script.run_bind, ran]
    cases outcome with
    | done _ => exact absurd rfl unsuccessful
    | failed fault => rfl
    | unfinished => rfl

end CommandVerbs.Lifecycle
