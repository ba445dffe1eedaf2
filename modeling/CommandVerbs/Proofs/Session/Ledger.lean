import Mathlib.Data.List.Basic
import CommandVerbs.Session.Adapters

/-! An account of connections. Each connection is known by a mark; the ledger tells what has
been done with it. In an orderly ledger a connection is opened only while none is live, called
and closed only while it is the live one, and its mark is never given again. -/
namespace CommandVerbs

inductive Use where
  | opened (mark : Nat)
  | called (mark : Nat)
  | closed (mark : Nat)
  deriving DecidableEq, Repr

namespace Ledger

/-- What is live after a use. -/
def next (live : List Nat) : Use → List Nat
  | .opened mark => live ++ [mark]
  | .called _ => live
  | .closed mark => live.erase mark

/-- The connections that have been opened and not yet closed. -/
def live (ledger : List Use) : List Nat := ledger.foldl next []

inductive Orderly : List Use → Option Nat → Prop where
  | empty : Orderly [] none
  | opened : Orderly ledger none →
      Orderly (ledger ++ [.opened ledger.length]) (some ledger.length)
  | called : Orderly ledger (some mark) → Orderly (ledger ++ [.called mark]) (some mark)
  | closed : Orderly ledger (some mark) → Orderly (ledger ++ [.closed mark]) none

@[simp] theorem live_nil : live [] = [] := rfl

@[simp] theorem live_snoc (ledger : List Use) (use : Use) :
    live (ledger ++ [use]) = next (live ledger) use := by
  simp [live]

theorem Orderly.live_eq (orderly : Orderly ledger current) :
    live ledger = current.toList := by
  induction orderly <;> simp_all [next]

theorem Orderly.mark_below (orderly : Orderly ledger current) (mark : Nat) :
    .opened mark ∈ ledger → mark < ledger.length := by
  induction orderly <;> grind

theorem Orderly.opened_once (orderly : Orderly ledger current) (mark : Nat) :
    ledger.count (.opened mark) ≤ 1 := by
  induction orderly with
  | empty => simp
  | @opened before orderly ih =>
    -- The new mark is the length of the ledger, so no earlier connection has it.
    rcases eq_or_ne before.length mark with rfl | other
    · have absent : before.count (.opened before.length) = 0 :=
        List.count_eq_zero.mpr fun known => Nat.lt_irrefl _ (orderly.mark_below _ known)
      simp [absent]
    · simpa [List.count_cons, other] using ih
  | called _ ih => simpa [List.count_cons] using ih
  | closed _ ih => simpa [List.count_cons] using ih

/-- Whatever was opened is either closed or still live. -/
theorem Orderly.balance (orderly : Orderly ledger current) (mark : Nat) :
    ledger.count (.closed mark) + current.toList.count mark = ledger.count (.opened mark) := by
  induction orderly with
  | empty => simp
  | opened _ ih => simp_all [List.count_cons]
  | called _ ih => simpa [List.count_cons] using ih
  | closed _ ih => simpa [List.count_cons] using ih

/-- An orderly ledger was orderly all along. -/
theorem Orderly.of_prefix (orderly : Orderly ledger current) (early : earlier <+: ledger) :
    ∃ then?, Orderly earlier then? := by
  induction orderly with
  | empty => exact ⟨none, List.prefix_nil.mp early ▸ .empty⟩
  | opened orderly ih =>
    rcases List.prefix_concat_iff.mp early with rfl | early
    · exact ⟨_, .opened orderly⟩
    · exact ih early
  | called orderly ih =>
    rcases List.prefix_concat_iff.mp early with rfl | early
    · exact ⟨_, .called orderly⟩
    · exact ih early
  | closed orderly ih =>
    rcases List.prefix_concat_iff.mp early with rfl | early
    · exact ⟨_, .closed orderly⟩
    · exact ih early

theorem Orderly.of_called (orderly : Orderly (ledger ++ [.called mark]) current) :
    Orderly ledger (some mark) := by
  generalize whole : ledger ++ [.called mark] = uses at orderly
  cases orderly with
  | called known =>
    obtain ⟨rfl, last⟩ := List.append_inj' whole rfl
    cases last
    exact known
  | _ => simp at whole

/-- At every moment of an orderly ledger at most one connection is live. -/
theorem Orderly.at_most_one (orderly : Orderly ledger current) (early : earlier <+: ledger) :
    (live earlier).length ≤ 1 := by
  obtain ⟨then?, known⟩ := orderly.of_prefix early
  rw [known.live_eq]
  cases then? <;> simp

/-- Whatever is called is live, and alone. -/
theorem Orderly.live_when_called (orderly : Orderly ledger current)
    (early : earlier ++ [.called mark] <+: ledger) : live earlier = [mark] := by
  obtain ⟨_, known⟩ := orderly.of_prefix early
  exact known.of_called.live_eq

end Ledger

end CommandVerbs
