import CommandVerbs.Proofs.Lifecycle.Order
import CommandVerbs.Proofs.Session.Ending
import CommandVerbs.Proofs.Verb.Dispatching
import CommandVerbs.Session.Adapters

/-! How a command with modifiers ends where its body and the modifier that answers are sequences of
steps. If one of them never asks for `go`, the command ends. Otherwise the modifier is entered again
and again, each time after the `go` hooks, until something fails. -/
namespace CommandVerbs

/-! ## Sequences of steps -/

inductive Step where
  | act (script : Script Unit)
  | go

def Step.run (context : Context) : Step → Script Unit
  | .act script => script
  | .go => context.go

/-- Runs scripts in order. -/
def Script.sequence (scripts : List (Script Unit)) : Script Unit := scripts.forM id

/-- The body takes the steps in order, and each of its own ends. -/
structure Body.Takes (body : Body) (steps : List Step) : Prop where
  runs : ∀ context, body context = steps.forM (Step.run context)
  ends : ∀ script, .act script ∈ steps → script.Ends

/-- Runs a script a number of times. -/
def Script.repeated (script : Script Unit) : Nat → Script Unit
  | 0 => .done ()
  | n + 1 => do
    script
    script.repeated n

/-- The runner tells the same invocation throughout, the one that it has in view. -/
structure Steady {σ : Type} (runner : Runner σ) (view : σ → Invocation) : Prop where
  tells : ∀ s, runner .invocation s = (view s, s)
  keeps : ∀ request s, view (runner request s).2 = view s

variable {σ α : Type} {runner : Runner σ} {view : σ → Invocation} {body : Body} {steps : List Step}
  {context : Context} {c : Command}

theorem Recorder.runner_steady : Steady Recorder.runner (·.invocation) where
  tells _ := rfl
  keeps request r := by
    cases request with
    | write channel text => cases channel <;> rfl
    | setSetting key value =>
      simp only [Recorder.runner, Recorder.setSetting]
      split <;> rfl
    | connect target retries =>
      simp only [Recorder.runner, Recorder.connect]
      split <;> rfl
    | call procedure parameters =>
      simp only [Recorder.runner, Recorder.call]
      split
      · rfl
      · split <;> rfl
    | launch request =>
      simp only [Recorder.runner, Recorder.launch]
      split
      · rfl
      · split <;> rfl
    | _ => rfl

theorem Session.disconnect_invocation {κ ω : Type} (a : Adapters κ ω) (s : Session κ ω) :
    (s.disconnect a).2.invocation = s.invocation := by
  unfold Session.disconnect
  split <;> rfl

theorem Session.runner_steady {κ ω : Type} (a : Adapters κ ω) :
    Steady (Session.runner a) (·.invocation) where
  tells _ := rfl
  keeps request s := by
    cases request with
    | connect target retries =>
      have kept := s.disconnect_invocation a
      simp only [Session.runner, Session.connect]
      split
      · rename_i closed
        exact closed ▸ kept
      · rename_i closed
        rw [closed] at kept
        split <;> exact kept
    | disconnect => exact s.disconnect_invocation a
    | call procedure parameters =>
      simp only [Session.runner, Session.call]
      split <;> rfl
    | help names all =>
      simp only [Session.runner, Session.help]
      split <;> rfl
    | package request =>
      simp only [Session.runner, Session.package]
      split <;> rfl
    | _ => rfl

theorem Steady.run (steady : Steady runner view) (script : Script α) (s : σ) :
    view (script.run runner s).2 = view s := by
  have keeps : ∀ request t, view t = view s → view (runner request t).2 = view s :=
    fun request t same => (steady.keeps request t).trans same
  exact (Script.run_keeps keeps script rfl).1

/-- After a script, what runs alike wherever the invocation is the same runs alike. -/
theorem Steady.bind_congr {β : Type} (steady : Steady runner view) {script : Script α}
    {next other : α → Script β} {s : σ}
    (same : ∀ value t, view t = view s → (next value).run runner t = (other value).run runner t) :
    (script >>= next).run runner s = (script >>= other).run runner s := by
  have kept := steady.run script s
  rw [Script.run_bind, Script.run_bind]
  generalize script.run runner s = between at kept
  obtain ⟨value | _ | _, t⟩ := between
  · exact same value t kept
  · rfl
  · rfl

/-- A sequence is done if its parts are, one after the other. -/
theorem Script.run_bind_done {β : Type} {script : Script α} {next : α → Script β} {b : β} {s u : σ}
    (done : (script >>= next).run runner s = (.done b, u)) :
    ∃ a t, script.run runner s = (.done a, t) ∧ (next a).run runner t = (.done b, u) := by
  rw [Script.run_bind] at done
  split at done
  · exact ⟨_, _, ‹_›, done⟩
  · simp at done
  · simp at done

/-! ## Running steps -/

/-- Steps without `go` are the same whatever `go` is. -/
theorem Body.Takes.never_goes (takes : body.Takes steps) (quiet : .go ∉ steps) :
    Body.NeverGoes body := by
  intro verb bundles go other
  rw [takes.runs, takes.runs]
  clear takes
  induction steps with
  | nil => rfl
  | cons step rest ih =>
    obtain ⟨here, later⟩ := not_or.mp (mt List.mem_cons.mpr quiet)
    rw [Script.forM_cons, Script.forM_cons, ih later]
    cases step with
    | act script => rfl
    | go => contradiction

theorem Body.Takes.ends_of_go (takes : body.Takes steps) (go : context.go.Ends) :
    (body context).Ends := by
  obtain ⟨runs, ends⟩ := takes
  rw [runs]
  clear runs
  induction steps with
  | nil => exact .pure ()
  | cons step rest ih =>
    have later := ih fun script member => ends script (List.mem_cons_of_mem _ member)
    cases step with
    | act script => exact (ends script List.mem_cons_self).bind fun _ => later
    | go => exact go.bind fun _ => later

/-- Steps run alike if `go` does so wherever the invocation is the same. -/
theorem Body.Takes.run_congr (takes : body.Takes steps) (steady : Steady runner view)
    {verb : Verb} {bundles : List Bundle} {go other : Script Unit} {s : σ}
    (same : ∀ t, view t = view s → go.run runner t = other.run runner t) :
    (body ⟨verb, bundles, go⟩).run runner s = (body ⟨verb, bundles, other⟩).run runner s := by
  rw [takes.runs, takes.runs]
  clear takes
  induction steps generalizing s with
  | nil => rfl
  | cons step rest ih =>
    have first : (step.run ⟨verb, bundles, go⟩).run runner s =
        (step.run ⟨verb, bundles, other⟩).run runner s := by
      cases step with
      | act script => rfl
      | go => exact same s rfl
    rw [Script.forM_cons, Script.forM_cons, Script.run_bind, first, ← Script.run_bind]
    exact steady.bind_congr fun _ t kept => ih fun u here => same u (here.trans kept)

theorem exists_first_go (asks : .go ∈ steps) :
    ∃ (first : List (Script Unit)) (rest : List Step), steps = first.map .act ++ .go :: rest := by
  induction steps with
  | nil => contradiction
  | cons step later ih =>
    cases step with
    | go => exact ⟨[], later, rfl⟩
    | act script =>
      obtain ⟨first, rest, rfl⟩ := ih ((List.mem_cons.mp asks).resolve_left nofun)
      exact ⟨script :: first, rest, rfl⟩

/-- Steps up to the first `go`, and what follows it. -/
theorem Body.Takes.until_go {first : List (Script Unit)} {rest : List Step}
    (takes : body.Takes (first.map .act ++ .go :: rest)) :
    body context = (do
      Script.sequence first
      context.go
      rest.forM (Step.run context)) := by
  rw [takes.runs]
  clear takes
  induction first with
  | nil => rfl
  | cons script first ih =>
    change (script >>= fun _ => _) = (script >>= fun _ => Script.sequence first) >>= fun _ => _
    rw [bind_assoc]
    exact congrArg (script >>= fun _ => ·) ih

theorem Body.Takes.sequence_ends {first : List (Script Unit)} {rest : List Step}
    (takes : body.Takes (first.map .act ++ rest)) : (Script.sequence first).Ends := by
  have ends : ∀ script ∈ first, script.Ends := fun script member =>
    takes.ends script (List.mem_append_left _ (List.mem_map.mpr ⟨script, member, rfl⟩))
  clear takes
  induction first with
  | nil => exact Script.Ends.pure ()
  | cons script first ih =>
    obtain ⟨here, ends⟩ := List.forall_mem_cons.mp ends
    exact here.bind fun _ => ih ends

/-! ## Repetition -/

theorem Script.Ends.repeated {script : Script Unit} (ends : script.Ends) (n : Nat) :
    (script.repeated n).Ends := by
  induction n with
  | zero => exact .pure ()
  | succ n ih => exact ends.bind fun _ => ih

theorem Script.repeated_add (script : Script Unit) (n k : Nat) :
    script.repeated (n + k) = (script.repeated n >>= fun _ => script.repeated k) := by
  induction n with
  | zero => exact congrArg script.repeated (Nat.zero_add k)
  | succ n ih =>
    rw [Nat.succ_add, Script.repeated, ih, Script.repeated, bind_assoc]

/-- A repetition that fails does so also as part of a longer one. -/
theorem Script.repeated_failed {script next : Script Unit} {n depth : Nat} {s t : σ} {fault : Fault}
    (failed : (script.repeated n).run runner s = (.failed fault, t)) (longer : n ≤ depth) :
    (script.repeated depth >>= fun _ => next).run runner s = (.failed fault, t) := by
  obtain ⟨k, rfl⟩ := Nat.exists_eq_add_of_le longer
  rw [Script.repeated_add, bind_assoc, Script.run_bind, failed]

/-! ## Commands -/

/-- What a command does up to the first `go` of its body. -/
def Command.opening (c : Command) (first : List (Script Unit)) : Script Unit := do
  let (_, ready) ← Bundle.startAll c.verb [] c.bundles
  Script.ofExcept id ready
  Script.sequence first

/-- A command runs alike with scripts for `go` with which its body does so. -/
theorem Command.run_congr {go other : Script Unit} {s : σ}
    (same : ∀ started t,
      (Bundle.startAll c.verb [] c.bundles).run runner s = (.done (started, .ok ()), t) →
        (c.body ⟨c.verb, c.bundles, go⟩).run runner t =
          (c.body ⟨c.verb, c.bundles, other⟩).run runner t) :
    (c.run go).run runner s = (c.run other).run runner s := by
  unfold Command.run
  rw [Script.run_bind, Script.run_bind]
  cases begun : (Bundle.startAll c.verb [] c.bundles).run runner s with
  | mk outcome t =>
  cases outcome with
  | done result =>
    obtain ⟨started, ready⟩ := result
    cases ready with
    | ok _ =>
      simp only [Script.run_bind, Script.run_attempt, same started t begun]
    | error fault => rfl
  | failed fault => rfl
  | unfinished => rfl

variable {first : List (Script Unit)} {rest : List Step} {go other : Script Unit} {s : σ}

theorem Command.opening_run {started : List Bundle} {t : σ} (next : Script Unit)
    (begun : (Bundle.startAll c.verb [] c.bundles).run runner s = (.done (started, .ok ()), t)) :
    (c.opening first >>= fun _ => next).run runner s =
      (Script.sequence first >>= fun _ => next).run runner t := by
  rw [Command.opening, bind_assoc, Script.run_bind, begun]
  rfl

/-- A body whose first `go` is cut off cuts its command off. -/
theorem Command.run_cut_off {t : σ} (takes : c.body.Takes (first.map .act ++ .go :: rest))
    (reached : (c.opening first >>= fun _ => other).run runner s = (.done (), t)) :
    (c.run (other >>= fun _ => .unfinished)).run runner s = (.unfinished, t) := by
  obtain ⟨_, v, opened, finished⟩ := Script.run_bind_done reached
  obtain ⟨⟨started, ready⟩, u, begun, ready_done⟩ := Script.run_bind_done opened
  obtain ⟨_, w, accepted, stepped⟩ := Script.run_bind_done ready_done
  cases ready with
  | error fault => simp [Script.ofExcept, Script.run] at accepted
  | ok _ =>
    obtain rfl : u = w := (Prod.mk.inj accepted).2
    have cut : (c.body ⟨c.verb, c.bundles, other >>= fun _ => .unfinished⟩).run runner u =
        (.unfinished, t) := by
      rw [takes.until_go, Script.run_bind, stepped]
      change ((other >>= fun _ => .unfinished) >>= fun _ => _).run runner v = _
      rw [bind_assoc, Script.run_bind, finished]
      rfl
    rw [Command.run, Script.run_bind, begun]
    change ((c.body ⟨c.verb, c.bundles, _⟩).attempt >>= _).run runner u = _
    rw [Script.run_bind, Script.run_attempt, cut]

/-- A body whose first `go` fails, if it is reached, is the same for its command whatever else that
`go` may do. -/
theorem Command.run_congr_failing (takes : c.body.Takes (first.map .act ++ .go :: rest))
    (ends : other.Ends)
    (fails : ((c.opening first >>= fun _ => other).run runner s).1 ≠ .done ())
    (same : ∀ fault t u, other.run runner t = (.failed fault, u) → go.run runner t = (.failed fault, u)) :
    (c.run go).run runner s = (c.run other).run runner s := by
  refine Command.run_congr fun started t begun => ?_
  rw [Command.opening_run other begun] at fails
  -- both run the same steps first; only after these may the two scripts for `go` differ
  rw [takes.until_go, takes.until_go, Script.run_bind, Script.run_bind]
  rw [Script.run_bind] at fails
  generalize (Script.sequence first).run runner t = between at fails
  obtain ⟨_ | _ | _, u⟩ := between
  · rcases ends.run runner u with ⟨_, w, ran, -⟩ | ⟨fault, w, ran⟩
    · simp [ran] at fails
    · change (go >>= fun _ => _).run runner u = (other >>= fun _ => _).run runner u
      rw [Script.run_bind, Script.run_bind, same fault u w ran, ran]
  · rfl
  · rfl

/-! ## Commands with modifiers -/

namespace MultiCommand

variable {m : MultiCommand} {modifier : Modifier} {calls later : List Step}
  {lead : List (Script Unit)} {s t : σ}

/-- The word that is requested with an invocation. -/
def requested (invocation : Invocation) : String :=
  (invocation.values.text? Modifier.selector).getD ""

/-- The modifier that answers to an invocation. -/
def answering (m : MultiCommand) (invocation : Invocation) : Option Modifier :=
  m.reached? (requested invocation)

theorem dispatch_run (steady : Steady runner view) (go : Script Unit) (s : σ) :
    (m.dispatch go).run runner s = (m.chosen go (requested (view s))).run runner s := by
  rw [dispatch_eq, Script.run, steady.tells]
  rfl

theorem chosen_answering {invocation : Invocation} (answers : m.answering invocation = some modifier)
    (go : Script Unit) :
    m.chosen go (requested invocation) = modifier.body ⟨m.command.verb, m.command.bundles, go⟩ := by
  rw [answering] at answers
  simp only [chosen, answers]

theorem refuse_ends (m : MultiCommand) (word : String) : (m.refuse word).Ends :=
  ((Script.Ends.request _).bind fun _ => Script.Ends.pure ()).ends.bind fun _ =>
    (Script.Ends.request _).bind fun _ => Script.Ends.ofExcept _ _

theorem chosen_ends {invocation : Invocation}
    (called : ∀ modifier, m.answering invocation = some modifier → modifier.body.Takes calls)
    {go : Script Unit} (go_ends : go.Ends) : (m.chosen go (requested invocation)).Ends := by
  cases answers : m.answering invocation with
  | some modifier =>
    rw [chosen_answering answers]
    exact (called modifier answers).ends_of_go go_ends
  | none =>
    rw [answering] at answers
    simp only [chosen, answers]
    exact m.refuse_ends _

/-- If what answers never asks for `go`, every depth above the first does the same. -/
theorem go_run_of_quiet (steady : Steady runner view)
    (called : ∀ modifier, m.answering (view s) = some modifier → modifier.body.Takes calls)
    (quiet : m.answering (view s) = none ∨ .go ∉ calls) (depth : Nat)
    (other : Script Unit) (here : view t = view s) :
    (m.go (depth + 1)).run runner t =
      (m.command.goBundles >>= fun _ => m.chosen other (requested (view s))).run runner t := by
  have same : m.chosen (m.go depth) (requested (view s)) = m.chosen other (requested (view s)) := by
    cases answers : m.answering (view s) with
    | some modifier =>
      rw [chosen_answering answers, chosen_answering answers]
      refine (called modifier answers).never_goes (quiet.resolve_left ?_) _ _ _ _
      simp [answers]
    | none =>
      rw [answering] at answers
      simp only [chosen, answers]
  refine steady.bind_congr fun _ u kept => ?_
  rw [dispatch_run steady, kept.trans here, same]

/-- What runs from one `go` to the next: the hooks of the bundles, then the modifier's first steps. -/
def round (m : MultiCommand) (lead : List (Script Unit)) : Script Unit := do
  m.command.goBundles
  Script.sequence lead

/-- If the modifier that answers asks for `go`, it is entered again and again, until something fails or
the run is cut off. -/
theorem go_reenters (steady : Steady runner view) (answers : m.answering (view s) = some modifier)
    (takes : modifier.body.Takes (lead.map .act ++ .go :: later)) (depth : Nat)
    (here : view t = view s) :
    (m.go depth).run runner t =
      ((m.round lead).repeated depth >>= fun _ => .unfinished).run runner t := by
  induction depth generalizing t with
  | zero => rfl
  | succ depth ih =>
    have unrolled : ((m.round lead).repeated (depth + 1) >>= fun _ => .unfinished) =
        (do
          m.command.goBundles
          Script.sequence lead
          (m.round lead).repeated depth >>= fun _ => .unfinished : Script Unit) := by
      simp only [Script.repeated, round, bind_assoc]
    rw [unrolled]
    refine steady.bind_congr fun _ u kept => ?_
    rw [dispatch_run steady, kept.trans here, chosen_answering answers, takes.until_go]
    refine steady.bind_congr fun _ w kept' => ?_
    -- what comes after the modifier's first `go` is never reached
    rw [Script.run_bind, ih (kept'.trans (kept.trans here)), ← Script.run_bind, bind_assoc]
    rfl

theorem execute_run (steady : Steady runner view) (takes : m.command.body.Takes steps) {depth : Nat}
    (same : ∀ t, view t = view s → (m.go depth).run runner t = other.run runner t) :
    (m.execute depth).run runner s = (m.command.run other).run runner s := by
  refine Command.run_congr fun started t begun => takes.run_congr steady fun u here => same u ?_
  -- starting the bundles does not change what the runner has in view
  have kept := steady.run (Bundle.startAll m.command.verb [] m.command.bundles) s
  rw [begun] at kept
  exact here.trans kept

/-- An execution for which a script that ends can stand for `go` has one outcome at every depth. -/
theorem finishes_of_go (hooks : ∀ b ∈ m.command.bundles, b.HooksEnd m.command.verb)
    (takes : m.command.body.Takes steps) (ends : other.Ends) {least : Nat}
    (same : ∀ depth, least ≤ depth →
      (m.execute depth).run runner s = (m.command.run other).run runner s) :
    ∃ outcome t, outcome ≠ .unfinished ∧
      ∀ depth, least ≤ depth → (m.execute depth).run runner s = (outcome, t) := by
  have ends : (m.command.run other).Ends := Command.run_ends hooks (takes.ends_of_go ends)
  exact ⟨_, _, ends.run_ne_unfinished runner s, same⟩

theorem finishes_unless_asked (steady : Steady runner view)
    (hooks : ∀ b ∈ m.command.bundles, b.HooksEnd m.command.verb)
    (takes : m.command.body.Takes steps)
    (called : ∀ modifier, m.answering (view s) = some modifier → modifier.body.Takes calls)
    (quiet : .go ∉ steps ∨ m.answering (view s) = none ∨ .go ∉ calls) :
    ∃ outcome t, outcome ≠ .unfinished ∧
      ∀ depth, 1 ≤ depth → (m.execute depth).run runner s = (outcome, t) := by
  rcases quiet with quiet | quiet
  · refine finishes_of_go hooks takes (Script.Ends.pure ()) fun depth _ => ?_
    refine Command.run_congr fun started t begun => ?_
    rw [takes.never_goes quiet]
  · have ends : (m.command.goBundles >>= fun _ =>
        m.chosen (.done ()) (requested (view s))).Ends :=
      (Bundle.goAll_ends hooks).bind fun _ => chosen_ends called (Script.Ends.pure ())
    refine finishes_of_go hooks takes ends fun depth positive => ?_
    obtain ⟨depth, rfl⟩ := Nat.exists_eq_succ_of_ne_zero (Nat.one_le_iff_ne_zero.mp positive)
    exact execute_run steady takes fun t => go_run_of_quiet steady called quiet depth (.done ())

/-- A round that fails finishes the execution, at every depth that allows as many rounds. -/
theorem finishes_of_failure (steady : Steady runner view)
    (hooks : ∀ b ∈ m.command.bundles, b.HooksEnd m.command.verb)
    (takes : m.command.body.Takes (first.map .act ++ .go :: rest))
    (answers : m.answering (view s) = some modifier)
    (calls : modifier.body.Takes (lead.map .act ++ .go :: later)) {n : Nat}
    (fails : ((m.command.opening first >>= fun _ => (m.round lead).repeated n).run runner s).1 ≠
      .done ()) :
    ∃ outcome t, outcome ≠ .unfinished ∧
      ∀ depth, n ≤ depth → (m.execute depth).run runner s = (outcome, t) := by
  have ends : ((m.round lead).repeated n).Ends :=
    Script.Ends.repeated ((Bundle.goAll_ends hooks).bind fun _ => calls.sequence_ends) n
  refine finishes_of_go hooks takes ends fun depth longer => ?_
  rw [execute_run steady takes fun t => go_reenters steady answers calls depth]
  exact Command.run_congr_failing takes ends fails fun fault t u failed =>
    Script.repeated_failed failed longer

/-- Let the body and the modifier that answers be sequences of steps. The execution finishes, with one
outcome at every depth, if the body or that modifier does not ask for `go`, or if no modifier answers.
Otherwise `go` is round after round of the bundles' hooks and of the modifier's steps before its own
`go`, and nothing comes after: the execution is cut off after any number of rounds that succeed, and
finishes just if one of them, or what leads to the first, fails. -/
theorem execute_finishes_or_reenters (steady : Steady runner view)
    (hooks : ∀ b ∈ m.command.bundles, b.HooksEnd m.command.verb)
    (takes : m.command.body.Takes steps)
    (called : ∀ modifier, m.answering (view s) = some modifier → modifier.body.Takes calls) :
    (.go ∉ steps ∨ m.answering (view s) = none ∨ .go ∉ calls →
      ∃ outcome t, outcome ≠ .unfinished ∧
        ∀ depth, 1 ≤ depth → (m.execute depth).run runner s = (outcome, t)) ∧
    ∀ modifier, m.answering (view s) = some modifier → .go ∈ steps → .go ∈ calls →
      ∃ (first : List (Script Unit)) (rest : List Step) (lead : List (Script Unit))
        (later : List Step), steps = first.map .act ++ .go :: rest ∧
        calls = lead.map .act ++ .go :: later ∧
        (∀ depth t, view t = view s → (m.go depth).run runner t =
          ((m.round lead).repeated depth >>= fun _ => .unfinished).run runner t) ∧
        ∀ n,
          (∀ t, (m.command.opening first >>= fun _ => (m.round lead).repeated n).run runner s =
            (.done (), t) → (m.execute n).run runner s = (.unfinished, t)) ∧
          (((m.command.opening first >>= fun _ => (m.round lead).repeated n).run runner s).1 ≠
            .done () → ∃ outcome t, outcome ≠ .unfinished ∧
              ∀ depth, n ≤ depth → (m.execute depth).run runner s = (outcome, t)) := by
  refine ⟨finishes_unless_asked steady hooks takes called, fun modifier answers asks asks' => ?_⟩
  obtain ⟨first, rest, rfl⟩ := exists_first_go asks
  obtain ⟨lead, later, rfl⟩ := exists_first_go asks'
  have calls := called modifier answers
  have reenters := fun depth t => go_reenters (t := t) steady answers calls depth
  refine ⟨first, rest, lead, later, rfl, rfl, reenters, fun n => ⟨fun t reached => ?_, ?_⟩⟩
  · rw [execute_run steady takes (reenters n)]
    exact Command.run_cut_off takes reached
  · exact finishes_of_failure steady hooks takes answers calls

def once : Modifier := .declare "once" (fun _ => Script.note "in") "" ""

/-- A modifier that asks for `go` again. -/
def again : Modifier :=
  .declare "again" (fun context => do Script.note "in"; context.go) "" ""

def looping : MultiCommand where
  command :=
    { verb := { name := "loop" }
      body := fun context => context.go
      bundles := [{ hooks := { go := true }, go := fun _ => Script.note "go" }] }
  modifiers := [once, again]

theorem looping_hooks : ∀ b ∈ looping.command.bundles, b.HooksEnd looping.command.verb := by
  intro b member kind script provided
  obtain rfl := List.mem_singleton.mp member
  cases kind with
  | go =>
    obtain rfl := Option.some.inj provided
    exact .request _
  | _ => contradiction

theorem looping_takes : looping.command.body.Takes [.go] where
  runs context := (Script.bind_done context.go).symm
  ends script member := by simp at member

theorem once_takes : once.body.Takes [.act (Script.note "in")] where
  runs _ := rfl
  ends script member := by
    obtain rfl : script = Script.note "in" := by simpa using member
    exact .request _

theorem again_takes : again.body.Takes [.act (Script.note "in"), .go] where
  runs context :=
    congrArg (Script.note "in" >>= fun _ => ·) (Script.bind_done context.go).symm
  ends script member := by
    obtain rfl : script = Script.note "in" := by simpa using member
    exact .request _

theorem answering_recorderOf (m : MultiCommand) (word : String) :
    m.answering (recorderOf word).invocation = m.findModifier? (Text.lower word) := by
  have asked := asked_recorderOf word
  change (recorderOf word).invocation.values.text? Modifier.selector = some word at asked
  rw [answering, requested, asked, Option.getD_some, findModifier?_lower]

theorem answering_once : looping.answering (recorderOf "once").invocation = some once := by
  have same : Text.sameIgnoringAsciiCase "once" (Text.lower "once") = true := by decide +kernel
  rw [answering_recorderOf]
  simp [findModifier?, looping, once, Modifier.declare, same]

theorem answering_again : looping.answering (recorderOf "again").invocation = some again := by
  have other : Text.sameIgnoringAsciiCase "once" (Text.lower "again") = false := by decide +kernel
  have same : Text.sameIgnoringAsciiCase "again" (Text.lower "again") = true := by decide +kernel
  rw [answering_recorderOf]
  simp [findModifier?, looping, once, again, Modifier.declare, other, same]

theorem execute_finishes_or_reenters_looping :
    (∃ outcome t, outcome ≠ .unfinished ∧ ∀ depth, 1 ≤ depth →
      (looping.execute depth).run Recorder.runner (recorderOf "once") = (outcome, t)) ∧
    ∃ lead, ∀ depth, (looping.go depth).run Recorder.runner (recorderOf "again") =
      ((looping.round lead).repeated depth >>= fun _ => .unfinished).run Recorder.runner
        (recorderOf "again") := by
  constructor
  · have called : ∀ modifier, looping.answering (recorderOf "once").invocation = some modifier →
        modifier.body.Takes [.act (Script.note "in")] := fun _ answers =>
      Option.some.inj (answering_once.symm.trans answers) ▸ once_takes
    exact (execute_finishes_or_reenters (s := recorderOf "once") Recorder.runner_steady
      looping_hooks looping_takes called).1 (.inr (.inr (by simp)))
  · have called : ∀ modifier, looping.answering (recorderOf "again").invocation = some modifier →
        modifier.body.Takes [.act (Script.note "in"), .go] := fun _ answers =>
      Option.some.inj (answering_again.symm.trans answers) ▸ again_takes
    obtain ⟨_, _, lead, _, -, -, reenters, -⟩ :=
      (execute_finishes_or_reenters (s := recorderOf "again") Recorder.runner_steady looping_hooks
        looping_takes called).2 again answering_again (by simp) (by simp)
    exact ⟨lead, fun depth => reenters depth _ rfl⟩

/-- However deep it may go, the execution is cut off. -/
theorem looping_again_cut_off :
    (¬∃ depth, ((looping.execute depth).run Recorder.runner (recorderOf "again")).1 ≠ .unfinished) ∧
    ((looping.execute 2).run Recorder.runner (recorderOf "again")).2.events = ["in", "go", "in", "go"] := by
  have rounds (n : Nat) (r : Recorder) : ∃ t,
      ((looping.round [Script.note "in"]).repeated n).run Recorder.runner r = (.done (), t) := by
    induction n generalizing r with
    | zero => exact ⟨r, rfl⟩
    | succ n ih => exact ih ((r.note "go").note "in")
  refine ⟨fun ⟨depth, finished⟩ => finished ?_, by decide +kernel⟩
  obtain ⟨t, reached⟩ := rounds depth (recorderOf "again")
  have enters : again.body.Takes ([Script.note "in"].map .act ++ .go :: []) := again_takes
  have reenters : ∀ t : Recorder, t.invocation = (recorderOf "again").invocation →
      (looping.go depth).run Recorder.runner t =
        ((looping.round [Script.note "in"]).repeated depth >>= fun _ => .unfinished).run
          Recorder.runner t :=
    fun _ => go_reenters Recorder.runner_steady answering_again enters depth
  have takes : looping.command.body.Takes ([].map .act ++ .go :: []) :=
    looping_takes
  rw [execute_run Recorder.runner_steady looping_takes reenters]
  rw [Command.run_cut_off takes reached]

end MultiCommand

end CommandVerbs
