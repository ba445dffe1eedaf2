import CommandVerbs.Session.Script

/-! Laws of running scripts. A run of a sequence goes through its parts, and an
attempt hands over what became of a script. A property that every answer keeps holds
at every moment of a run, and a run follows any map between runners. -/
namespace CommandVerbs.Script

variable {α β σ τ : Type}

theorem run_bind (runner : Runner σ) (script : Script α) (next : α → Script β) (s : σ) :
    (script >>= next).run runner s =
      match script.run runner s with
      | (.done value, t) => (next value).run runner t
      | (.failed fault, t) => (.failed fault, t)
      | (.unfinished, t) => (.unfinished, t) := by
  change (script.andThen next).run runner s = _
  induction script generalizing s with
  | done value => rfl
  | fail fault => rfl
  | ask request reply ih => exact ih _ _
  | unfinished => rfl

theorem forM_cons (f : α → Script Unit) (first : α) (rest : List α) :
    (first :: rest).forM f = (f first >>= fun _ => rest.forM f) := rfl

theorem run_attempt (runner : Runner σ) (script : Script α) (s : σ) :
    script.attempt.run runner s =
      match script.run runner s with
      | (.done value, t) => (.done (.ok value), t)
      | (.failed fault, t) => (.done (.error fault), t)
      | (.unfinished, t) => (.unfinished, t) := by
  induction script generalizing s with
  | done value => rfl
  | fail fault => rfl
  | ask request reply ih => exact ih _ _
  | unfinished => rfl

theorem run_report (runner : Runner σ) (diagnostic : Diagnostic) (s : σ) :
    (report diagnostic).run runner s = (.done (), (runner (.report diagnostic) s).2) := rfl

section

variable {runner : Runner σ} {key value line : String} {s : σ} {fault : ConfigFault}

theorem run_setSetting_ok (reply : (runner (.setSetting key value) s).1 = .ok ()) :
    (setSetting key value).run runner s = (.done (), (runner (.setSetting key value) s).2) := by
  change (ofExcept .config (runner (.setSetting key value) s).1).run runner _ = _
  rw [reply]
  rfl

theorem run_setSetting_error (reply : (runner (.setSetting key value) s).1 = .error fault) :
    (setSetting key value).run runner s =
      (.failed (.config fault), (runner (.setSetting key value) s).2) := by
  change (ofExcept .config (runner (.setSetting key value) s).1).run runner _ = _
  rw [reply]
  rfl

theorem run_writeLine_ok (reply : (runner (.write .output (line ++ "\n")) s).1 = .ok ()) :
    (writeLine line).run runner s = (.done (), (runner (.write .output (line ++ "\n")) s).2) := by
  change (ofExcept .output (runner (.write .output (line ++ "\n")) s).1).run runner _ = _
  rw [reply]
  rfl

end

/-- A script that goes on with nothing is that script. -/
theorem bind_done (script : Script Unit) : (script >>= fun _ => .done ()) = script := by
  change (script.andThen fun _ => .done ()) = script
  induction script with
  | done value => rfl
  | fail fault => rfl
  | ask request reply ih => exact congrArg (ask request) (funext ih)
  | unfinished => rfl

instance : LawfulMonad Script :=
  .mk' Script
    (fun script => by
      change script.andThen (fun value => .done value) = script
      induction script with
      | ask request reply ih => exact congrArg (ask request) (funext ih)
      | _ => rfl)
    (fun _ _ => rfl)
    (fun script first second => by
      change (script.andThen first).andThen second = script.andThen fun value => (first value).andThen second
      induction script with
      | ask request reply ih => exact congrArg (ask request) (funext ih)
      | _ => rfl)

/-- A run follows a map of states along which the runners agree. -/
theorem run_map {first : Runner σ} {second : Runner τ} {f : σ → τ}
    (agree : ∀ request s,
      second request (f s) = ((first request s).1, f (first request s).2))
    (script : Script α) (s : σ) :
    script.run second (f s) = ((script.run first s).1, f (script.run first s).2) := by
  induction script generalizing s with
  | done value => rfl
  | fail fault => rfl
  | ask request next ih =>
    simp only [run, agree request s]
    exact ih _ _
  | unfinished => rfl

/-- The requests of a run, each with the state in which it is answered. -/
def moments (runner : Runner σ) : Script α → σ → List (Request × σ)
  | .ask request next, s =>
    (request, s) :: (next (runner request s).1).moments runner (runner request s).2
  | .done _, _ | .fail _, _ | .unfinished, _ => []

theorem run_keeps {runner : Runner σ} {invariant : σ → Prop}
    (keeps : ∀ request s, invariant s → invariant (runner request s).2)
    (script : Script α) (holds : invariant s) :
    invariant (script.run runner s).2 ∧
      ∀ moment ∈ script.moments runner s, invariant moment.2 := by
  induction script generalizing s with
  | done value => exact ⟨holds, by simp [moments]⟩
  | fail fault => exact ⟨holds, by simp [moments]⟩
  | ask request next ih =>
    obtain ⟨after, between⟩ := ih (runner request s).1 (keeps request s holds)
    refine ⟨after, fun moment member => ?_⟩
    rcases List.mem_cons.mp member with rfl | later
    · exact holds
    · exact between moment later
  | unfinished => exact ⟨holds, by simp [moments]⟩

/-- What every answer extends, a run extends from each of its moments on. -/
theorem run_extends {runner : Runner σ} (log : σ → List β)
    (grows : ∀ request s, log s <+: log (runner request s).2) (script : Script α) (s : σ) :
    ∀ moment ∈ script.moments runner s,
      log (runner moment.1 moment.2).2 <+: log (script.run runner s).2 := by
  have whole : ∀ (script : Script α) (s : σ), log s <+: log (script.run runner s).2 := by
    intro script
    induction script with
    | ask request next ih => exact fun s => (grows request s).trans (ih _ _)
    | _ => exact fun s => List.prefix_refl _
  induction script generalizing s with
  | ask request next ih =>
    intro moment member
    rcases List.mem_cons.mp member with rfl | later
    · exact whole _ _
    · exact ih _ _ moment later
  | _ => simp [moments]

end CommandVerbs.Script
