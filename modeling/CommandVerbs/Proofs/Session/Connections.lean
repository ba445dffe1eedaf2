import CommandVerbs.Proofs.Session.Ledger
import CommandVerbs.Proofs.Session.Running

/-! What becomes of the connections of an execution. Audited adapters carry out what given
adapters do, mark every connection and keep a ledger. What a session does for one request is a
relation between the session before it and the one after it; the order of the ledger is kept by
that relation, hence by a run, and no use that has been entered is lost again. -/
namespace CommandVerbs

variable {κ ω : Type}

structure Audited (ω : Type) where
  world : ω
  ledger : List Use := []

namespace Audited

/-- Carries out what does not concern a connection. -/
def keep {α : Type} (w : Audited ω) : α × ω → α × Audited ω
  | (reply, world) => (reply, { w with world })

def enter (w : Audited ω) (use : Use) (world : ω) : Audited ω :=
  ⟨world, w.ledger ++ [use]⟩

end Audited

/-- The same adapters with an audit: a connection is marked with the length of the ledger at its
opening. -/
def Adapters.audited (a : Adapters κ ω) : Adapters (Nat × κ) (Audited ω) where
  write channel text w := w.keep (a.write channel text w.world)
  getSetting key w := a.getSetting key w.world
  setSetting key value w := w.keep (a.setSetting key value w.world)
  removeSetting key w := w.keep (a.removeSetting key w.world)
  listSettings filter w := a.listSettings filter w.world
  connect target retries w :=
    match a.connect target retries w.world with
    | (.error fault, world) => (.error fault, { w with world })
    | (.ok connection, world) =>
      (.ok (w.ledger.length, connection), w.enter (.opened w.ledger.length) world)
  call connection procedure parameters w :=
    let (mark, connection) := connection
    let (response, connection, world) := a.call connection procedure parameters w.world
    (response, (mark, connection), w.enter (.called mark) world)
  close connection w :=
    let (mark, connection) := connection
    let (closed, world) := a.close connection w.world
    (closed, w.enter (.closed mark) world)
  launch request w := w.keep (a.launch request w.world)
  help := a.help
  package request w := w.keep (a.package request w.world)
  flush w := w.keep (a.flush w.world)
  report diagnostic w := { w with world := a.report diagnostic w.world }
  note event w := { w with world := a.note event w.world }

@[simp] theorem Audited.keep_mk {α : Type} (w : Audited ω) (reply : α) (world : ω) :
    w.keep (reply, world) = (reply, { w with world }) := rfl

@[simp] theorem Adapters.audited_package (a : Adapters κ ω) (request : PackageRequest)
    (w : Audited ω) : a.audited.package request w = w.keep (a.package request w.world) := rfl

@[simp] theorem Adapters.audited_help (a : Adapters κ ω) : a.audited.help = a.help := rfl

namespace Session

open Ledger (Orderly live)

/-- The session without the audit. -/
def unaudited (s : Session (Nat × κ) (Audited ω)) : Session κ ω where
  invocation := s.invocation
  connection := s.connection.map (·.2)
  world := s.world.world

/-- The ledger is orderly, and what is live in it is the connection of the session. -/
def Kept (s : Session (Nat × κ) (Audited ω)) : Prop :=
  Orderly s.world.ledger (s.connection.map (·.1))

variable (a : Adapters κ ω)

theorem disconnect_unaudited (s : Session (Nat × κ) (Audited ω)) :
    s.unaudited.disconnect a =
      ((s.disconnect a.audited).1, (s.disconnect a.audited).2.unaudited) := by
  obtain ⟨invocation, connection, world⟩ := s
  cases connection <;> rfl

theorem announce_unaudited (paths : List String) (w : Audited ω) :
    announce a.audited paths w = { w with world := announce a paths w.world } := by
  induction paths generalizing w with
  | nil => rfl
  | cons path rest ih => exact ih _

theorem runner_unaudited (request : Request) (s : Session (Nat × κ) (Audited ω)) :
    runner a request s.unaudited =
      ((runner a.audited request s).1, (runner a.audited request s).2.unaudited) := by
  cases request with
  | connected =>
    obtain ⟨invocation, connection, world⟩ := s
    cases connection <;> rfl
  | connect target retries =>
    simp only [runner, connect, disconnect_unaudited]
    cases disconnected : s.disconnect a.audited with
    | mk closed t =>
    cases closed with
    | error fault => rfl
    | ok _ =>
      simp only [Adapters.audited, unaudited]
      cases a.connect target retries t.world.world with
      | mk made world => cases made <;> rfl
  | disconnect => exact disconnect_unaudited a s
  | call procedure parameters =>
    obtain ⟨invocation, connection, world⟩ := s
    cases connection <;> rfl
  | help names all =>
    simp only [runner, help, Adapters.audited_help]
    cases a.help names all <;> rfl
  | package request =>
    simp only [runner, package, Adapters.audited_package, unaudited]
    cases a.package request s.world.world with
    | mk made world =>
    cases made with
    | error fault => rfl
    | ok paths => simp only [Audited.keep_mk, announce_unaudited]
  | _ => rfl

/-- What disconnecting comes to: there is nothing to close, or what is held is closed and gone,
whatever its closing replies. -/
inductive Freed (t : Session (Nat × κ) (Audited ω)) :
    Except ConnectionFault Unit → Session (Nat × κ) (Audited ω) → Prop where
  | free (nothing : t.connection = none) : Freed t (.ok ()) t
  | closed {mark : Nat} {connection : κ} {world : ω} (held : t.connection = some (mark, connection))
    (did : a.close connection t.world.world = (reply, world)) :
    Freed t reply { t with connection := none, world := t.world.enter (.closed mark) world }

/-- What connecting comes to. Whatever is held is closed first, and a fault of that is the reply;
otherwise the connector is asked once, and what it returns is held and entered. -/
inductive Dialled (target : Service.Target) (retries : UInt32) (t : Session (Nat × κ) (Audited ω)) :
    Except ConnectionFault Unit → Session (Nat × κ) (Audited ω) → Prop where
  | blocked {fault : ConnectionFault} (freed : Freed a t (.error fault) u) :
    Dialled target retries t (.error fault) u
  | refused {fault : ConnectionFault} {world : ω} (freed : Freed a t (.ok ()) u)
    (tried : a.connect target retries u.world.world = (.error fault, world)) :
    Dialled target retries t (.error fault) { u with world := { u.world with world } }
  | opened {connection : κ} {world : ω} (freed : Freed a t (.ok ()) u)
    (tried : a.connect target retries u.world.world = (.ok connection, world)) :
    Dialled target retries t (.ok ())
      { u with
        connection := some (u.world.ledger.length, connection)
        world := u.world.enter (.opened u.world.ledger.length) world }

/-- What a call comes to: it goes to the connection that is held, and is refused if there is none. -/
inductive Forwarded (procedure : String) (parameters : List Json)
    (t : Session (Nat × κ) (Audited ω)) :
    Except ConnectionFault Service.Response → Session (Nat × κ) (Audited ω) → Prop where
  | refused (nothing : t.connection = none) :
    Forwarded procedure parameters t (.error .notConnected) t
  | called {mark : Nat} {connection next : κ} {world : ω}
    (held : t.connection = some (mark, connection))
    (did : a.call connection procedure parameters t.world.world = (response, next, world)) :
    Forwarded procedure parameters t response
      { t with connection := some (mark, next), world := t.world.enter (.called mark) world }

/-- What a session does about its connection for a request. -/
def Handled (t : Session (Nat × κ) (Audited ω)) :
    (request : Request) → request.Reply → Session (Nat × κ) (Audited ω) → Prop
  | .connect target retries, reply, u => Dialled a target retries t reply u
  | .disconnect, reply, u => Freed a t reply u
  | .call procedure parameters, reply, u => Forwarded a procedure parameters t reply u
  | .connected, reply, u => reply = t.connection.isSome ∧ u = t
  | _, _, u => u.connection = t.connection ∧ u.world.ledger = t.world.ledger

section

variable {a : Adapters κ ω} {s t u : Session (Nat × κ) (Audited ω)}
  {reply : Except ConnectionFault Unit} {target : Service.Target} {retries : UInt32}
  {request : Request}

theorem freed_iff : Freed a t reply u ↔ t.disconnect a.audited = (reply, u) := by
  obtain ⟨invocation, connection, w⟩ := t
  constructor
  · intro freed
    cases freed with
    | free nothing =>
      obtain rfl : connection = none := nothing
      rfl
    | closed held did =>
      obtain rfl : connection = _ := held
      simp only [disconnect, Adapters.audited, did]
  · intro same
    cases connection with
    | none =>
      obtain ⟨rfl, rfl⟩ := Prod.mk.inj same
      exact .free rfl
    | some connection =>
      obtain ⟨rfl, rfl⟩ := Prod.mk.inj same
      exact .closed rfl rfl

/-- A request is handled as it should be. -/
theorem runner_handled (request : Request) (t : Session (Nat × κ) (Audited ω)) :
    Handled a t request (runner a.audited request t).1 (runner a.audited request t).2 := by
  cases request with
  | connect target retries =>
    simp only [Handled, runner, connect]
    cases disconnected : t.disconnect a.audited with
    | mk closed u =>
    have freed : Freed a t closed u := freed_iff.mpr disconnected
    cases closed with
    | error fault => exact .blocked freed
    | ok _ =>
      simp only [Adapters.audited]
      cases tried : a.connect target retries u.world.world with
      | mk made world =>
      cases made with
      | error fault => exact .refused freed tried
      | ok connection => exact .opened freed tried
  | disconnect => exact freed_iff.mpr rfl
  | connected => exact ⟨rfl, rfl⟩
  | call procedure parameters =>
    obtain ⟨invocation, connection, w⟩ := t
    cases connection with
    | none => exact .refused rfl
    | some connection => exact .called rfl rfl
  | help names all =>
    simp only [Handled, runner, help, Adapters.audited_help]
    cases a.help names all <;> exact ⟨rfl, rfl⟩
  | package request =>
    simp only [Handled, runner, package, Adapters.audited_package]
    cases a.package request t.world.world with
    | mk made world =>
    cases made with
    | error fault => exact ⟨rfl, rfl⟩
    | ok paths =>
      have told : (announce a.audited paths { t.world with world }).ledger = t.world.ledger := by
        rw [announce_unaudited]
      exact ⟨rfl, told⟩
  | _ => exact ⟨rfl, rfl⟩

theorem Freed.kept (freed : Freed a t reply u) (kept : t.Kept) : u.Kept ∧ u.connection = none := by
  cases freed with
  | free nothing => exact ⟨kept, nothing⟩
  | closed held _ =>
    simp only [Kept, held] at kept
    exact ⟨.closed kept, rfl⟩

/-- No request brings the ledger into disorder. -/
theorem Handled.kept {reply : request.Reply} (handled : Handled a t request reply u)
    (kept : t.Kept) : u.Kept := by
  cases request with
  | connect target retries =>
    cases handled with
    | blocked freed => exact (freed.kept kept).1
    | refused freed _ => exact (freed.kept kept).1
    | opened freed _ =>
      obtain ⟨known, gone⟩ := freed.kept kept
      simp only [Kept, gone] at known
      exact .opened known
  | disconnect => exact (Freed.kept handled kept).1
  | call procedure parameters =>
    cases handled with
    | refused _ => exact kept
    | called held _ =>
      simp only [Kept, held] at kept
      exact .called kept
  | connected => exact handled.2 ▸ kept
  | _ =>
    obtain ⟨still, same⟩ := handled
    simpa only [Kept, still, same] using kept

theorem Freed.entered (freed : Freed a t reply u) : t.world.ledger <+: u.world.ledger := by
  cases freed with
  | free _ => exact List.prefix_refl _
  | closed _ _ => exact List.prefix_append _ _

/-- What has been entered into the ledger stays there. -/
theorem Handled.entered {reply : request.Reply} (handled : Handled a t request reply u) :
    t.world.ledger <+: u.world.ledger := by
  cases request with
  | connect target retries =>
    cases handled with
    | blocked freed => exact freed.entered
    | refused freed _ => exact freed.entered
    | opened freed _ => exact freed.entered.trans (List.prefix_append _ _)
  | disconnect => exact Freed.entered handled
  | call procedure parameters =>
    cases handled with
    | refused _ => exact List.prefix_refl _
    | called _ _ => exact List.prefix_append _ _
  | connected => exact handled.2 ▸ List.prefix_refl _
  | _ => exact handled.2 ▸ List.prefix_refl _

/-- What the connector returns is held and entered. -/
theorem Freed.connect {connection : κ} {world : ω} (freed : Freed a t (.ok ()) u)
    (tried : a.connect target retries u.world.world = (.ok connection, world)) :
    runner a.audited (.connect target retries) t =
      (.ok (), { u with
        connection := some (u.world.ledger.length, connection)
        world := u.world.enter (.opened u.world.ledger.length) world }) := by
  simp only [runner, Session.connect, freed_iff.mp freed]
  simp only [Adapters.audited, tried]

end

/-- A call goes to the live connection, and is refused if there is none. -/
theorem Kept.call {s : Session (Nat × κ) (Audited ω)} (kept : s.Kept) (procedure : String)
    (parameters : List Json) :
    (live s.world.ledger = [] → s.call a.audited procedure parameters = (.error .notConnected, s)) ∧
    ∀ mark, live s.world.ledger = [mark] → ∃ connection, s.connection = some (mark, connection) ∧
      ∀ response next w,
        a.call connection procedure parameters s.world.world = (response, next, w) →
        s.call a.audited procedure parameters =
          (response, { s with
            connection := some (mark, next), world := s.world.enter (.called mark) w }) := by
  obtain ⟨invocation, connection, w⟩ := s
  have known : live w.ledger = (connection.map (·.1)).toList := kept.live_eq
  cases connection with
  | none => simp [Session.call, known]
  | some connection =>
    refine ⟨by simp [known], fun mark alone => ?_⟩
    obtain rfl : connection.1 = mark := by simpa [known] using alone
    refine ⟨connection.2, rfl, fun response next w called => ?_⟩
    simp only [Session.call, Adapters.audited, called]

variable (depth : Nat) (e : Entry) (invocation : Invocation) (world : ω)

theorem execute_unaudited :
    execute a depth e invocation world =
      ((execute a.audited depth e invocation { world }).1,
        (execute a.audited depth e invocation { world }).2.world) := by
  have ran := Script.run_map (runner_unaudited a) (e.execute depth)
    { invocation, world := { world } }
  change (e.execute depth).run (runner a) { invocation, world } = _ at ran
  simp only [execute, ran, disconnect_unaudited]
  rfl

theorem run_kept (script : Script Unit) :
    (script.run (runner a.audited) { invocation, world := { world } }).2.Kept ∧
      ∀ moment ∈ script.moments (runner a.audited) { invocation, world := { world } },
        moment.2.Kept :=
  Script.run_keeps (fun request s => (runner_handled request s).kept) script
    (show Orderly [] none from .empty)

/-- The ledger of the end of a run begins with that of each of its moments. -/
theorem run_entered (script : Script Unit) (s : Session (Nat × κ) (Audited ω)) :
    ∀ moment ∈ script.moments (runner a.audited) s,
      (runner a.audited moment.1 moment.2).2.world.ledger <+:
        (script.run (runner a.audited) s).2.world.ledger :=
  Script.run_extends (fun s : Session (Nat × κ) (Audited ω) => s.world.ledger)
    (fun request s => (runner_handled request s).entered) script s

/-- The end of an execution: what a run has left open is closed, and the output is flushed. -/
theorem execute_ending :
    ∃ closed u,
      Freed a ((e.execute depth).run (runner a.audited) { invocation, world := { world } }).2
        closed u ∧
      execute a.audited depth e invocation { world } =
        (((e.execute depth).run (runner a.audited) { invocation, world := { world } }).1,
          ⟨(a.flush u.world.world).2, u.world.ledger⟩) :=
  ⟨_, _, freed_iff.mpr rfl, rfl⟩

/-- Whatever a verb asks for and whatever the adapters reply, an audited execution is the
execution, and its ledger holds what has been done at each moment of the run: each request is
handled as it should be, and every connection that the connector returns is held and entered.
It tells that at every moment at most one connection is live, that only the live one is called,
and that each one is closed exactly once when the execution is over. A call without a live
connection is refused and changes nothing. The outcome is that of the verb, whatever comes of
closing and flushing after it. -/
theorem execute_closes_connections :
    ∃ outcome last ledger,
      execute a.audited depth e invocation { world } = (outcome, ⟨last, ledger⟩) ∧
      execute a depth e invocation world = (outcome, last) ∧
      ((e.execute depth).run (runner a) { invocation, world }).1 = outcome ∧
      (∀ request t, (request, t) ∈
          (e.execute depth).moments (runner a.audited) { invocation, world := { world } } →
        ∃ reply u, runner a.audited request t = (reply, u) ∧ Handled a t request reply u ∧
          t.world.ledger <+: u.world.ledger ∧ u.world.ledger <+: ledger) ∧
      (∃ closed u,
        Freed a ((e.execute depth).run (runner a.audited) { invocation, world := { world } }).2
          closed u ∧
        u.world.ledger = ledger ∧ (a.flush u.world.world).2 = last) ∧
      (∀ target retries t u connection w, (.connect target retries, t) ∈
          (e.execute depth).moments (runner a.audited) { invocation, world := { world } } →
        Freed a t (.ok ()) u → a.connect target retries u.world.world = (.ok connection, w) →
        ∃ mark v, runner a.audited (.connect target retries) t = (.ok (), v) ∧
          v.connection = some (mark, connection) ∧
          v.world.ledger = u.world.ledger ++ [.opened mark] ∧ v.world.ledger <+: ledger) ∧
      (∀ earlier, earlier <+: ledger → (live earlier).length ≤ 1) ∧
      (∀ earlier mark, earlier ++ [.called mark] <+: ledger → live earlier = [mark]) ∧
      (∀ mark, ledger.count (.opened mark) ≤ 1 ∧
        ledger.count (.closed mark) = ledger.count (.opened mark)) ∧
      ∀ procedure parameters t, (.call procedure parameters, t) ∈
          (e.execute depth).moments (runner a.audited) { invocation, world := { world } } →
        (live t.world.ledger = [] →
          runner a.audited (.call procedure parameters) t = (.error .notConnected, t)) ∧
        ∀ mark, live t.world.ledger = [mark] →
          ∃ connection, t.connection = some (mark, connection) ∧
            ∀ response next w,
              a.call connection procedure parameters t.world.world = (response, next, w) →
              runner a.audited (.call procedure parameters) t =
                (response, { t with
                  connection := some (mark, next), world := t.world.enter (.called mark) w }) := by
  obtain ⟨kept, keeps⟩ := run_kept a invocation world (e.execute depth)
  obtain ⟨closed, u, freed, audited⟩ := execute_ending a depth e invocation world
  have same := execute_unaudited a depth e invocation world
  rw [audited] at same
  have entered : ∀ request t, (request, t) ∈
      (e.execute depth).moments (runner a.audited) { invocation, world := { world } } →
      (runner a.audited request t).2.world.ledger <+: u.world.ledger := fun request t moment =>
    (run_entered a (e.execute depth) _ (request, t) moment).trans freed.entered
  have orderly : Orderly u.world.ledger none := by
    obtain ⟨known, gone⟩ := freed.kept kept
    simpa only [Kept, gone, Option.map_none] using known
  refine ⟨_, _, _, audited, same, congrArg Prod.fst same, ?_, ⟨_, _, freed, rfl, rfl⟩, ?_, ?_, ?_, ?_, ?_⟩
  · intro request t moment
    have handled : Handled a t request _ _ := runner_handled request t
    exact ⟨_, _, rfl, handled, handled.entered, entered request t moment⟩
  · intro target retries t u connection w moment freed tried
    have last := entered _ t moment
    rw [freed.connect tried] at last
    exact ⟨_, _, freed.connect tried, rfl, rfl, last⟩
  · exact fun earlier early => orderly.at_most_one early
  · exact fun earlier mark early => orderly.live_when_called early
  · exact fun mark => ⟨orderly.opened_once mark, orderly.balance mark⟩
  · exact fun procedure parameters t moment =>
      (keeps _ moment).call a procedure parameters

end Session

end CommandVerbs
