import CommandVerbs.Proofs.Session.Reliable
import CommandVerbs.Rehearsal.Recorder

/-! How far a recorder stands in for a session whose connections can be relied on. Both are dealt with
in the same way, and every connection is had or refused by both. They differ in two things only: a
recorder keeps the connection for which another was sought in vain, and its count of attempts starts anew
at the limit of 32 bits. -/
namespace CommandVerbs

variable {κ ω : Type}

/-! ## Dealings -/

/-- What a verb does about its connection. With connecting it is laid down why every attempt fails, if
there is no connection to be had. -/
inductive Dealing where
  | connect (target : Service.Target) (retries : UInt32) (refusal : Option String)
  | connected
  | disconnect
  | call (procedure : String) (parameters : List Json)

namespace Dealing

abbrev request : Dealing → Request
  | .connect target retries _ => .connect target retries
  | .connected => .connected
  | .disconnect => .disconnect
  | .call procedure parameters => .call procedure parameters

/-- Whether two replies tell the same of the connection. A call tells whether there is one. -/
def Agree : (d : Dealing) → d.request.Reply → d.request.Reply → Prop
  | .connect _ _ _, first, second => first = second
  | .connected, first, second => first = second
  | .disconnect, first, second => first = second
  | .call _ _, first, second => first = .error .notConnected ↔ second = .error .notConnected

/-- The reply of whoever has a connection or not, and counts attempts in a certain way. -/
def Told (there : Bool) (count : UInt32 → Nat) : (d : Dealing) → d.request.Reply → Prop
  | .connect _ _ none, reply => reply = .ok ()
  | .connect target retries (some reason), reply =>
    reply = .error (.unreachable target.address (count retries) reason)
  | .connected, reply => reply = there
  | .disconnect, reply => reply = .ok ()
  | .call _ _, reply => reply = .error .notConnected ↔ there = false

end Dealing

/-- The number of attempts of which a recorder tells: it starts anew where 32 bits end. -/
def recordedAttempts (retries : UInt32) : Nat := (retries.toNat + 1) % UInt32.size

/-- The number of attempts of which a session tells: it stops where 32 bits end. -/
def dialledAttempts (retries : UInt32) : Nat := min (retries.toNat + 1) (UInt32.size - 1)

theorem recordedAttempts_eq_iff {retries : UInt32} :
    recordedAttempts retries = dialledAttempts retries ↔ retries ≠ 0xFFFFFFFF := by
  have small := retries.toNat_lt
  have most : retries = 0xFFFFFFFF ↔ retries.toNat = 0xFFFFFFFF := UInt32.toNat_inj.symm
  rw [recordedAttempts, dialledAttempts, UInt32.size, Ne, most]
  omega

/-- What has become of a connection. -/
inductive Standing where
  | absent
  | held
  /-- given up for another that was not to be had -/
  | lost
  deriving DecidableEq, Repr

/-- What becomes of the connection in a dealing. -/
def Standing.after : Standing → Dealing → Standing
  | _, .connect _ _ none => .held
  | .held, .connect _ _ (some _) => .lost
  | s, .connect _ _ (some _) => s
  | s, .connected => s
  | _, .disconnect => .absent
  | s, .call _ _ => s

/-- What has become of the connection in dealings, of which the first found none. -/
def standing (dealings : List Dealing) : Standing :=
  dealings.foldl .after .absent

/-- Where a recorder and a session tell different things. -/
def Dealing.Strays : Dealing → Standing → Prop
  | .connect _ retries refusal, _ => refusal.isSome ∧ retries = 0xFFFFFFFF
  | .connected, s => s = .lost
  | .disconnect, _ => False
  | .call _ _, s => s = .lost

/-! ## Recorders -/

namespace Recorder

/-- The recorder with what is laid down for a dealing. -/
def facing (r : Recorder) : Dealing → Recorder
  | .connect _ _ refusal => { r with connectRefusal := refusal }
  | _ => r

def deal (r : Recorder) (d : Dealing) : d.request.Reply × Recorder :=
  runner d.request (r.facing d)

def dealt (r : Recorder) (dealings : List Dealing) : Recorder :=
  dealings.foldl (fun r d => (r.deal d).2) r

/-- A recorder has a connection unless none was made or it has been disconnected since. -/
def StandsAt (r : Recorder) (s : Standing) : Prop :=
  r.connected.isSome = decide (s ≠ .absent)

/-- Calls need a connection, and leave it as it is. -/
theorem call_connected (r : Recorder) (procedure : String) (parameters : List Json) :
    ((r.call procedure parameters).1 = .error .notConnected ↔ r.connected.isSome = false) ∧
      (r.call procedure parameters).2.connected = r.connected := by
  unfold Recorder.call
  cases there : r.connected with
  | none => simp [there]
  | some target => cases waiting : r.responses <;> simp [Recorder.note, waiting, there]

theorem StandsAt.deal {r : Recorder} {s : Standing} (stands : r.StandsAt s) (d : Dealing) :
    d.Told (decide (s ≠ .absent)) recordedAttempts (r.deal d).1 ∧
      (r.deal d).2.StandsAt (s.after d) := by
  cases d with
  | connect target retries refusal =>
    cases refusal with
    | none => exact ⟨rfl, rfl⟩
    | some reason => cases s <;> exact ⟨rfl, stands⟩
  | connected => exact ⟨stands, stands⟩
  | disconnect => exact ⟨rfl, rfl⟩
  | call procedure parameters =>
    obtain ⟨told, same⟩ := r.call_connected procedure parameters
    exact ⟨told.trans (by rw [stands]), (congrArg Option.isSome same).trans stands⟩

theorem StandsAt.dealt {r : Recorder} {s : Standing} (stands : r.StandsAt s)
    (dealings : List Dealing) : (r.dealt dealings).StandsAt (dealings.foldl .after s) := by
  induction dealings generalizing r s with
  | nil => exact stands
  | cons d rest ih => exact ih (stands.deal d).2

end Recorder

/-! ## Sessions -/

namespace Adapters

/-- Dials where no attempt succeeds. -/
def refusing (a : Adapters κ ω) (reason : String) : Service.Dialler Empty κ ω where
  attempt _ w := (.error reason, w)
  establish _ _ reached := nomatch reached
  warn failed w := a.report (.attemptFailed failed.reason) w
  pause := id

/-- The adapters with what is laid down for a dealing. -/
def facing (a : Adapters κ ω) : Dealing → Adapters κ ω
  | .connect _ _ (some reason) => { a with connect := (a.refusing reason).connect }
  | _ => a

end Adapters

namespace Session

def deal (a : Adapters κ ω) (s : Session κ ω) (d : Dealing) : d.request.Reply × Session κ ω :=
  runner (a.facing d) d.request s

def dealt (a : Adapters κ ω) (s : Session κ ω) (dealings : List Dealing) : Session κ ω :=
  dealings.foldl (fun s d => (s.deal a d).2) s

/-- A session has a connection, and one that is usable, as long as it holds one. -/
def StandsAt (usable : κ → Prop) (s : Session κ ω) : Standing → Prop
  | .held => ∃ connection, s.connection = some connection ∧ usable connection
  | _ => s.connection = none

variable {a : Adapters κ ω} {usable : κ → Prop} {s : Session κ ω} {standing : Standing}

/-- Disconnecting succeeds, whatever has become of the connection. -/
theorem StandsAt.disconnect (stands : s.StandsAt usable standing) (reliable : a.Reliable usable) :
    ∃ t, s.disconnect a = (.ok (), t) ∧ t.connection = none := by
  have absent (none : s.connection = none) : s.disconnect a = (.ok (), s) := by
    rw [Session.disconnect, none]
  cases standing with
  | absent => exact ⟨s, absent stands, stands⟩
  | lost => exact ⟨s, absent stands, stands⟩
  | held =>
    obtain ⟨connection, there, fit⟩ := stands
    obtain ⟨v, closed⟩ := reliable.closes connection s.world fit
    refine ⟨{ s with connection := none, world := v }, ?_, rfl⟩
    simp only [Session.disconnect, there, closed]

theorem connect_made {t : Session κ ω} {target : Service.Target} {retries : UInt32} {connection : κ}
    {v : ω} (disconnected : s.disconnect a = (.ok (), t))
    (made : a.connect target retries t.world = (.ok connection, v)) :
    s.connect a target retries = (.ok (), { t with connection := some connection, world := v }) := by
  simp only [Session.connect, disconnected, made]

theorem connect_failed {t : Session κ ω} {target : Service.Target} {retries : UInt32}
    {fault : ConnectionFault} {v : ω} (disconnected : s.disconnect a = (.ok (), t))
    (failed : a.connect target retries t.world = (.error fault, v)) :
    s.connect a target retries = (.error fault, { t with world := v }) := by
  simp only [Session.connect, disconnected, failed]

theorem StandsAt.connect (stands : s.StandsAt usable standing) (reliable : a.Reliable usable)
    (target : Service.Target) (retries : UInt32) (refusal : Option String) :
    (Dealing.connect target retries refusal).Told (decide (standing = .held))
        dialledAttempts (s.deal a (.connect target retries refusal)).1 ∧
      (s.deal a (.connect target retries refusal)).2.StandsAt usable
        (standing.after (.connect target retries refusal)) := by
  obtain ⟨t, disconnected, absent⟩ := stands.disconnect reliable
  cases refusal with
  | none =>
    obtain ⟨connection, v, made, fit⟩ := reliable.connects target retries t.world
    have dealt : s.deal a (.connect target retries none) =
        (.ok (), { t with connection := some connection, world := v }) :=
      connect_made disconnected made
    rw [dealt]
    exact ⟨rfl, connection, rfl, fit⟩
  | some reason =>
    have failed : ((a.refusing reason).connect target retries t.world).1 = _ :=
      Service.Dialler.connect_refused (fun _ => rfl) retries
    rw [Service.toNat_attempts] at failed
    rcases dialled : (a.refusing reason).connect target retries t.world with ⟨result, v⟩
    rw [dialled] at failed
    obtain rfl : result = _ := failed
    have dealt : s.deal a (.connect target retries (some reason)) =
        (.error (.unreachable target.address (dialledAttempts retries) reason),
          { t with world := v }) :=
      connect_failed (a := a.facing (.connect target retries (some reason))) disconnected dialled
    rw [dealt]
    refine ⟨rfl, ?_⟩
    cases standing <;> exact absent

theorem StandsAt.call (stands : s.StandsAt usable standing) (reliable : a.Reliable usable)
    (procedure : String) (parameters : List Json) :
    ((s.call a procedure parameters).1 = .error .notConnected ↔ decide (standing = .held) = false) ∧
      (s.call a procedure parameters).2.StandsAt usable standing := by
  have refused (none : s.connection = none) :
      s.call a procedure parameters = (.error .notConnected, s) := by
    rw [Session.call, none]
  cases standing with
  | absent => simp [refused stands, stands]
  | lost => simp [refused stands, stands]
  | held =>
    obtain ⟨connection, there, fit⟩ := stands
    obtain ⟨response, next, v, called, answered, still⟩ :=
      reliable.answers connection procedure parameters s.world fit
    simp only [Session.call, there, called]
    exact ⟨by simp [answered], next, rfl, still⟩

theorem StandsAt.deal (stands : s.StandsAt usable standing) (reliable : a.Reliable usable)
    (d : Dealing) :
    d.Told (decide (standing = .held)) dialledAttempts (s.deal a d).1 ∧
      (s.deal a d).2.StandsAt usable (standing.after d) := by
  cases d with
  | connect target retries refusal => exact stands.connect reliable target retries refusal
  | connected =>
    refine ⟨?_, stands⟩
    change s.connection.isSome = _
    cases standing with
    | absent => exact congrArg Option.isSome stands
    | lost => exact congrArg Option.isSome stands
    | held =>
      obtain ⟨connection, there, -⟩ := stands
      exact congrArg Option.isSome there
  | disconnect =>
    obtain ⟨t, disconnected, absent⟩ := stands.disconnect reliable
    have dealt : s.deal a .disconnect = (.ok (), t) := disconnected
    rw [dealt]
    exact ⟨rfl, absent⟩
  | call procedure parameters => exact stands.call reliable procedure parameters

theorem StandsAt.dealt (stands : s.StandsAt usable standing) (reliable : a.Reliable usable)
    (dealings : List Dealing) :
    (s.dealt a dealings).StandsAt usable (dealings.foldl .after standing) := by
  induction dealings generalizing s standing with
  | nil => exact stands
  | cons d rest ih => exact ih (stands.deal reliable d).2

end Session

/-! ## Comparison -/

namespace Dealing

theorem agree_iff (d : Dealing) {s : Standing} {first second : d.request.Reply}
    (recorded : d.Told (decide (s ≠ .absent)) recordedAttempts first)
    (dialled : d.Told (decide (s = .held)) dialledAttempts second) :
    d.Agree first second ↔ ¬d.Strays s := by
  cases d with
  | connect target retries refusal =>
    cases refusal with
    | none => exact iff_of_true (recorded.trans dialled.symm) (by simp [Strays])
    | some reason =>
      have recorded : first =
          .error (.unreachable target.address (recordedAttempts retries) reason) := recorded
      have dialled : second =
          .error (.unreachable target.address (dialledAttempts retries) reason) := dialled
      have same : first = second ↔ recordedAttempts retries = dialledAttempts retries := by
        rw [recorded, dialled]
        simp
      exact same.trans (recordedAttempts_eq_iff.trans (by simp [Strays]))
  | connected =>
    have recorded : first = decide (s ≠ .absent) := recorded
    have dialled : second = decide (s = .held) := dialled
    have same : first = second ↔ s ≠ .lost := by
      rw [recorded, dialled]
      cases s <;> decide
    exact same
  | disconnect => exact iff_of_true (recorded.trans dialled.symm) not_false
  | call procedure parameters =>
    have same : (first = .error .notConnected ↔ second = .error .notConnected) ↔ s ≠ .lost := by
      rw [show first = .error .notConnected ↔ _ from recorded,
        show second = .error .notConnected ↔ _ from dialled]
      cases s <;> decide
    exact same

end Dealing

/-- In any sequence of dealings, a recorder and a session with reliable connections tell the same of the
connection, except in two cases. -/
theorem stands_in_iff {a : Adapters κ ω} {usable : κ → Prop} (reliable : a.Reliable usable)
    {r : Recorder} {s : Session κ ω} (unused : r.connected = none) (fresh : s.connection = none)
    (before : List Dealing) (d : Dealing) :
    d.Told (decide (standing before ≠ .absent)) recordedAttempts ((r.dealt before).deal d).1 ∧
      d.Told (decide (standing before = .held)) dialledAttempts ((s.dealt a before).deal a d).1 ∧
      (d.Agree ((r.dealt before).deal d).1 ((s.dealt a before).deal a d).1 ↔
        ¬d.Strays (standing before)) := by
  have recorder : r.StandsAt .absent := by simp [Recorder.StandsAt, unused]
  have session : s.StandsAt usable .absent := fresh
  obtain ⟨recorded, -⟩ := (recorder.dealt before).deal d
  obtain ⟨dialled, -⟩ := (session.dealt reliable before).deal reliable d
  exact ⟨recorded, dialled, d.agree_iff recorded dialled⟩

/-- The adapters of a program over wires on which everyone is let in. -/
def wiredAdapters : Adapters Service.Client (World Unit) :=
  World.adapters { program := "java", start := fun _ _ _ => .exited 0 } (fun _ _ => .ok "")
    (fun _ world => (.ok [], world)) (World.wired .integral fun _ w =>
      (.ok (Service.Client.connected (World.welcomingReply.line Service.Response.writtenJson) none).wire,
        w))

theorem wiredAdapters_reliable : wiredAdapters.Reliable Service.Client.Usable :=
  World.wired_reliable _ _ _ (World.welcoming_of_reply Service.Codec.integral_compact
    Service.Codec.integral_faithful (by decide))

def newRecorder : Recorder where
  invocation := { verb := "pause" }
  files := .emptyAt []

def newSession : Session Service.Client (World Unit) where
  invocation := { verb := "pause" }
  world := { files := .emptyAt [], service := () }

/-- A connection is had, and then another is sought in vain. -/
def sought : List Dealing :=
  [.connect { host := "db1", port := 21211 } 3 none,
    .connect { host := "db2", port := 21211 } 0 (some "timed out")]

theorem stands_in_iff_sought :
    wiredAdapters.Reliable Service.Client.Usable ∧
      newRecorder.connected = none ∧ newSession.connection = none ∧
      (Dealing.connected).Agree ((newRecorder.dealt (sought.take 1)).deal .connected).1
        ((newSession.dealt wiredAdapters (sought.take 1)).deal wiredAdapters .connected).1 ∧
      ¬(Dealing.connected).Agree ((newRecorder.dealt sought).deal .connected).1
        ((newSession.dealt wiredAdapters sought).deal wiredAdapters .connected).1 := by
  have compare (before : List Dealing) :=
    (stands_in_iff wiredAdapters_reliable (r := newRecorder) (s := newSession) rfl rfl before
      .connected).2.2
  refine ⟨wiredAdapters_reliable, rfl, rfl, (compare _).mpr ?_, fun agree => (compare _).mp agree ?_⟩
  · exact Standing.noConfusion
  · rfl

/-- A recorder goes on with the connection that a session has given up, and tells of no attempt where a
session tells of the most that 32 bits can count. -/
theorem lost_connection_recorded :
    let target : Service.Target := { host := "db1", port := 21211 }
    let limit : Dealing := .connect target 0xFFFFFFFF (some "timed out")
    ((newRecorder.dealt sought).deal .connected).1 = true ∧
      ((newSession.dealt wiredAdapters sought).deal wiredAdapters .connected).1 = false ∧
      (newRecorder.deal limit).1 = .error (.unreachable target.address 0 "timed out") ∧
      (newSession.deal wiredAdapters limit).1 =
        .error (.unreachable target.address 4294967295 "timed out") := by
  intro target limit
  have recorder : newRecorder.StandsAt .absent := rfl
  have session : newSession.StandsAt Service.Client.Usable .absent := rfl
  exact ⟨((recorder.dealt sought).deal .connected).1,
    ((session.dealt wiredAdapters_reliable sought).deal wiredAdapters_reliable .connected).1,
    (recorder.deal limit).1, (session.deal wiredAdapters_reliable limit).1⟩

end CommandVerbs
