import CommandVerbs.Service.Dial

/-! What happens while a connection is attempted. Accounted surroundings keep the attempts, the warnings
and the pauses in order. Every attempt before the last one has failed, has been warned of under its
number and is followed by a pause; the last one is the first that succeeds, or the last that is allowed.
-/
namespace CommandVerbs.Service

/-- What happens while a connection is attempted. -/
inductive DialEvent where
  | reached
  | failed (reason : String)
  | warned (address : String) (number attempts : Nat) (reason : String)
  | paused
  deriving DecidableEq, Repr

/-- Surroundings with an account of what has happened in them. -/
structure Accounted (ω : Type) where
  world : ω
  events : List DialEvent := []

theorem toNat_attempts (retries : UInt32) :
    (attempts retries).toNat = min (retries.toNat + 1) (UInt32.size - 1) := by
  have small := retries.toNat_lt
  unfold attempts UInt32.size
  split
  · rename_i most
    rw [most]
    decide
  · rename_i fewer
    have below : retries.toNat ≠ 0xFFFFFFFF := fun same => fewer (UInt32.toNat_inj.mp same)
    rw [UInt32.toNat_add, UInt32.toNat_one]
    omega

theorem one_le_attempts (retries : UInt32) : 1 ≤ attempts retries := by
  rw [UInt32.le_iff_toNat_le, toNat_attempts, UInt32.toNat_one, UInt32.size]
  omega

namespace Dialler

variable {ρ κ ω : Type} {d : Dialler ρ κ ω} {target : Target} {last number : UInt32} {w v : ω}
  {reached : ρ} {reason : String}

theorem tryFrom_reached (attempted : d.attempt target w = (.ok reached, v)) :
    d.tryFrom target last number w = (.ok (number, reached), v) := by
  rw [tryFrom, attempted]

theorem tryFrom_failed (attempted : d.attempt target w = (.error reason, v)) (more : number < last) :
    d.tryFrom target last number w = d.tryFrom target last (number + 1)
      (d.pause (d.warn ⟨target.address, number, last, reason⟩ v)) := by
  rw [tryFrom, attempted]
  exact if_pos more

theorem tryFrom_exhausted (attempted : d.attempt target w = (.error reason, v)) (none : ¬number < last) :
    d.tryFrom target last number w =
      (.error reason, d.warn ⟨target.address, number, last, reason⟩ v) := by
  rw [tryFrom, attempted]
  exact if_neg none

/-- Where no attempt succeeds, the reason of each is that of the last. -/
theorem tryFrom_refused (refused : ∀ w, (d.attempt target w).1 = .error reason) :
    (d.tryFrom target last number w).1 = .error reason := by
  fun_induction d.tryFrom target last number w with
  | case1 number w reached v attempted =>
    have failed := refused w
    rw [attempted] at failed
    contradiction
  | case2 number w _ v attempted warned more ih => exact ih
  | case3 number w other v attempted warned none =>
    have failed := refused w
    rw [attempted] at failed
    exact congrArg Except.error (Except.error.inj failed)

theorem connect_refused (refused : ∀ w, (d.attempt target w).1 = .error reason) (retries : UInt32) :
    (d.connect target retries w).1 =
      .error (.unreachable target.address (attempts retries).toNat reason) := by
  have failed : (d.tryFrom target (attempts retries) 1 w).1 = .error reason := tryFrom_refused refused
  unfold connect
  split
  · rename_i tried
    rw [tried] at failed
    contradiction
  · rename_i other v tried
    rw [tried] at failed
    rw [Except.error.inj failed]

/-- The same dialler with an account. -/
def accounted (d : Dialler ρ κ ω) : Dialler ρ κ (Accounted ω) where
  attempt target w :=
    match d.attempt target w.world with
    | (.ok reached, world) => (.ok reached, ⟨world, w.events ++ [.reached]⟩)
    | (.error reason, world) => (.error reason, ⟨world, w.events ++ [.failed reason]⟩)
  establish target number reached w :=
    let (connection, world) := d.establish target number reached w.world
    (connection, { w with world })
  warn failed w :=
    ⟨d.warn failed w.world, w.events ++
      [.warned failed.address failed.number.toNat failed.attempts.toNat failed.reason]⟩
  pause w := ⟨d.pause w.world, w.events ++ [.paused]⟩

/-- What happens in attempts that fail for the given reasons, if the first of them has the given number
and a pause follows each. -/
def rounds (address : String) (attempts : Nat) : Nat → List String → List DialEvent
  | _, [] => []
  | number, reason :: rest =>
    [.failed reason, .warned address number attempts reason, .paused] ++
      rounds address attempts (number + 1) rest

theorem accounted_attempt (d : Dialler ρ κ ω) (target : Target) (w : Accounted ω) :
    d.accounted.attempt target w =
      match d.attempt target w.world with
      | (.ok reached, world) => (.ok reached, ⟨world, w.events ++ [.reached]⟩)
      | (.error reason, world) => (.error reason, ⟨world, w.events ++ [.failed reason]⟩) := rfl

/-- What happens in the attempts from one number on. The account changes nothing in them. -/
theorem tryFrom_account (d : Dialler ρ κ ω) (target : Target) (within : number ≤ last)
    (w : ω) (before : List DialEvent) :
    ∃ earlier world result events,
      d.accounted.tryFrom target last number ⟨w, before⟩ = (result, ⟨world, before ++ events⟩) ∧
      d.tryFrom target last number w = (result, world) ∧
      ((∃ successful reached, result = .ok (successful, reached) ∧
          (∃ v, d.attempt target v = (.ok reached, world)) ∧
          successful.toNat = number.toNat + earlier.length ∧ successful ≤ last ∧
          events = rounds target.address last.toNat number.toNat earlier ++ [.reached]) ∨
        ∃ reason, result = .error reason ∧ number.toNat + earlier.length = last.toNat ∧
          events = rounds target.address last.toNat number.toNat earlier ++
            [.failed reason, .warned target.address last.toNat last.toNat reason]) := by
  fun_induction d.tryFrom target last number w generalizing before with
  | case1 number w reached world attempted =>
    have here : d.accounted.attempt target ⟨w, before⟩ =
        (.ok reached, ⟨world, before ++ [.reached]⟩) := by
      simp only [accounted_attempt, attempted]
    exact ⟨[], world, _, _, tryFrom_reached here, rfl,
      .inl ⟨number, reached, rfl, ⟨w, attempted⟩, rfl, within, rfl⟩⟩
  | case2 number w reason world attempted warned more ih =>
    have here : d.accounted.attempt target ⟨w, before⟩ =
        (.error reason, ⟨world, before ++ [.failed reason]⟩) := by
      simp only [accounted_attempt, attempted]
    have next : number + 1 ≤ last := by
      rw [UInt32.le_iff_toNat_le, toNat_next more]
      exact UInt32.lt_iff_toNat_lt.mp more
    obtain ⟨earlier, final, result, events, account, same, ended⟩ := ih next
      (before ++ [.failed reason] ++ [.warned target.address number.toNat last.toNat reason] ++ [.paused])
    rw [toNat_next more] at ended
    refine ⟨reason :: earlier, final, result,
      [.failed reason, .warned target.address number.toNat last.toNat reason, .paused] ++ events,
      ?_, same, ?_⟩
    · rw [tryFrom_failed here more]
      refine Eq.trans account ?_
      simp only [List.append_assoc, List.cons_append, List.nil_append]
    · rcases ended with
        ⟨successful, reached, got, origin, counted, within, rfl⟩ | ⟨ending, got, counted, rfl⟩
      · refine .inl ⟨successful, reached, got, origin, ?_, within, by simp [rounds]⟩
        rw [counted, List.length_cons]
        omega
      · refine .inr ⟨ending, got, ?_, by simp [rounds]⟩
        rw [List.length_cons]
        omega
  | case3 number w reason world attempted warned none =>
    have here : d.accounted.attempt target ⟨w, before⟩ =
        (.error reason, ⟨world, before ++ [.failed reason]⟩) := by
      simp only [accounted_attempt, attempted]
    obtain rfl : number = last := UInt32.le_antisymm within (UInt32.not_lt.mp none)
    refine ⟨[], warned, _, [.failed reason, .warned target.address number.toNat number.toNat reason],
      ?_, rfl, .inr ⟨reason, rfl, by simp, by simp [rounds]⟩⟩
    rw [tryFrom_exhausted here none]
    simp [accounted, warned]

/-- However many retries are allowed and whatever comes of the attempts, connecting ends with the first
attempt that succeeds, or with the last of one more attempts than retries, as far as 32 bits can count
them. Each attempt before it has failed, has been warned of under its number and is followed by a pause;
nothing follows the last one but a warning, if it has failed, and its reason is what connecting reports.
-/
theorem connect_account (d : Dialler ρ κ ω) (target : Target) (retries : UInt32) (w : ω) :
    ∃ most earlier result world events, most = min (retries.toNat + 1) (UInt32.size - 1) ∧
      d.accounted.connect target retries ⟨w, []⟩ = (result, ⟨world, events⟩) ∧
      d.connect target retries w = (result, world) ∧
      ((∃ number reached before after, d.attempt target before = (.ok reached, after) ∧
          d.establish target number reached after = (result, world) ∧
          number.toNat = earlier.length + 1 ∧ earlier.length < most ∧
          events = rounds target.address most 1 earlier ++ [.reached]) ∨
        ∃ reason, result = .error (.unreachable target.address most reason) ∧
          earlier.length + 1 = most ∧
          events = rounds target.address most 1 earlier ++
            [.failed reason, .warned target.address most most reason]) := by
  obtain ⟨earlier, world, result, events, account, same, ended⟩ :=
    tryFrom_account d target (one_le_attempts retries) w []
  rw [toNat_attempts, UInt32.toNat_one] at ended
  rcases ended with
    ⟨number, reached, rfl, ⟨before, attempted⟩, counted, within, rfl⟩ | ⟨reason, rfl, counted, rfl⟩
  · rw [UInt32.le_iff_toNat_le, toNat_attempts] at within
    refine ⟨_, earlier, (d.establish target number reached world).1,
      (d.establish target number reached world).2, _, rfl, ?_, ?_,
      .inl ⟨number, reached, before, world, attempted, rfl, by omega, by omega, rfl⟩⟩
    · rw [connect, account]
      rfl
    · rw [connect, same]
  · refine ⟨_, earlier, _, world, _, rfl, ?_, ?_, .inr ⟨reason, rfl, by omega, rfl⟩⟩
    · rw [connect, account, toNat_attempts]
      rfl
    · rw [connect, same, toNat_attempts]

end Dialler

end CommandVerbs.Service
