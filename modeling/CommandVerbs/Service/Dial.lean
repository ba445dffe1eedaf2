import CommandVerbs.Fault
import CommandVerbs.Service.Target

/-!
# Dialling

Connecting by repeated attempts. After the first success nothing more is tried; after a failure
comes a warning and, if an attempt is left, a pause.
-/

namespace CommandVerbs.Service

/-- A failed attempt, as it is warned of. -/
structure FailedAttempt where
  address : String
  number : UInt32
  /-- how many attempts there may be -/
  attempts : UInt32
  reason : String
  deriving DecidableEq, Repr, Inhabited

/-- How a connection is attempted in surroundings of type `ω`. What an attempt reaches is of type
`ρ`. -/
structure Dialler (ρ κ ω : Type) where
  attempt : Target → ω → Except String ρ × ω
  /-- makes a connection of what the attempt of a number has reached -/
  establish : Target → UInt32 → ρ → ω → Except ConnectionFault κ × ω
  warn : FailedAttempt → ω → ω
  pause : ω → ω

/-- The number of attempts that a number of retries allows, kept within 32 bits. -/
def attempts (retries : UInt32) : UInt32 :=
  if retries = 0xFFFFFFFF then retries else retries + 1

/-- Counting attempts does not go beyond 32 bits. -/
theorem toNat_next {number last : UInt32} (more : number < last) :
    (number + 1).toNat = number.toNat + 1 := by
  have below : number.toNat < last.toNat := UInt32.lt_iff_toNat_lt.mp more
  have := last.toNat_lt
  rw [UInt32.toNat_add, UInt32.toNat_one]
  omega

namespace Dialler

variable {ρ κ ω : Type}

/-- Makes the attempt of a number and, as far as it is needed, those that follow it up to the last.
Returns what was reached and by which attempt, or the reason of the last failure. -/
def tryFrom (d : Dialler ρ κ ω) (target : Target) (last number : UInt32) (w : ω) :
    Except String (UInt32 × ρ) × ω :=
  match d.attempt target w with
  | (.ok reached, w) => (.ok (number, reached), w)
  | (.error reason, w) =>
    let warned := d.warn ⟨target.address, number, last, reason⟩ w
    if number < last then tryFrom d target last (number + 1) (d.pause warned)
    else (.error reason, warned)
termination_by last.toNat - number.toNat
decreasing_by
  rename_i more
  rw [toNat_next more]
  exact Nat.sub_lt_sub_left (UInt32.lt_iff_toNat_lt.mp more) (Nat.lt_succ_self _)

/-- Connects, trying again the given number of times. -/
def connect (d : Dialler ρ κ ω) (target : Target) (retries : UInt32) (w : ω) :
    Except ConnectionFault κ × ω :=
  match d.tryFrom target (attempts retries) 1 w with
  | (.ok (number, reached), w) => d.establish target number reached w
  | (.error reason, w) =>
    (.error (.unreachable target.address (attempts retries).toNat reason), w)

end Dialler

/-- The reason of an attempt that nobody answers. -/
def refusedReason : String :=
  "Connection refused (os error 111)"

/-- Why nothing is reached where there is no network: the host may not even be a name. -/
def unreachableReason (target : Target) : String :=
  if target.host.toList.contains '\x00' then "file name contained an unexpected NUL byte"
  else refusedReason

end CommandVerbs.Service
