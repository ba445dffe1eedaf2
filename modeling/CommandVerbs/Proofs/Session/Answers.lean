import CommandVerbs.Proofs.Session.Running
import CommandVerbs.Session.Adapters

/-! How scripts run in a session, request by request. The command line and the settings are read and
nothing is changed; what is set or written goes to the surroundings. A run asks for the launches that
its requests are. -/
namespace CommandVerbs

namespace Script

variable {α β σ : Type} {runner : Runner σ} {script : Script α} {s : σ}

theorem moments_bind (runner : Runner σ) (script : Script α) (next : α → Script β) (s : σ) :
    (script >>= next).moments runner s = script.moments runner s ++
      match script.run runner s with
      | (.done value, t) => (next value).moments runner t
      | _ => [] := by
  change (script.andThen next).moments runner s = _
  induction script generalizing s with
  | done value => rfl
  | fail fault => rfl
  | ask request reply ih => exact congrArg _ (ih _ _)
  | unfinished => rfl

def launchOf? : Request × σ → Option LaunchRequest
  | (.launch request, _) => some request
  | _ => none

/-- The launches that a run asks for. -/
def launches (runner : Runner σ) (script : Script α) (s : σ) : List LaunchRequest :=
  (script.moments runner s).filterMap launchOf?

theorem launches_bind (runner : Runner σ) (script : Script α) (next : α → Script β) (s : σ) :
    (script >>= next).launches runner s = script.launches runner s ++
      match script.run runner s with
      | (.done value, t) => (next value).launches runner t
      | _ => [] := by
  rw [launches, moments_bind, List.filterMap_append]
  rcases script.run runner s with ⟨_ | _ | _, t⟩ <;> rfl

/-- What comes after a script that asks for no launch and changes nothing. -/
theorem launches_after {value : α} {next : α → Script β} (quiet : script.launches runner s = [])
    (ran : script.run runner s = (.done value, s)) :
    (script >>= next).launches runner s = (next value).launches runner s := by
  rw [launches_bind, quiet, ran, List.nil_append]

end Script

namespace Session

variable {κ ω β : Type} (a : Adapters κ ω) (s : Session κ ω)

theorem run_values (next : Values → Script β) :
    (Script.values >>= next).run (runner a) s = (next s.invocation.values).run (runner a) s := rfl

theorem launches_values (next : Values → Script β) :
    (Script.values >>= next).launches (runner a) s =
      (next s.invocation.values).launches (runner a) s := rfl

theorem run_getSetting (key : String) (next : Option String → Script β) :
    (Script.getSetting key >>= next).run (runner a) s =
      (next (a.getSetting key s.world)).run (runner a) s := rfl

theorem launches_getSetting (key : String) (next : Option String → Script β) :
    (Script.getSetting key >>= next).launches (runner a) s =
      (next (a.getSetting key s.world)).launches (runner a) s := rfl

theorem run_setSetting (key value : String) :
    (Script.setSetting key value).run (runner a) s =
      match a.setSetting key value s.world with
      | (.ok (), world) => (.done (), { s with world })
      | (.error fault, world) => (.failed (.config fault), { s with world }) := by
  change (Script.ofExcept .config (a.setSetting key value s.world).1).run (runner a)
    { s with world := (a.setSetting key value s.world).2 } = _
  rcases a.setSetting key value s.world with ⟨fault | ⟨⟩, world⟩ <;> rfl

theorem run_writeLine (line : String) :
    (Script.writeLine line).run (runner a) s =
      match a.write .output (line ++ "\n") s.world with
      | (.ok (), world) => (.done (), { s with world })
      | (.error reason, world) => (.failed (.output reason), { s with world }) := by
  change (Script.ofExcept .output (a.write .output (line ++ "\n") s.world).1).run (runner a)
    { s with world := (a.write .output (line ++ "\n") s.world).2 } = _
  rcases a.write .output (line ++ "\n") s.world with ⟨reason | ⟨⟩, world⟩ <;> rfl

theorem launches_launch (request : LaunchRequest) :
    (Script.launch request).launches (runner a) s = [request] := by
  have quiet (reply : Except ProcessFault Unit) (t : Session κ ω) :
      (Script.ofExcept .process reply).launches (runner a) t = [] := by
    cases reply <;> rfl
  exact congrArg (request :: ·) (quiet _ _)

end Session

end CommandVerbs
