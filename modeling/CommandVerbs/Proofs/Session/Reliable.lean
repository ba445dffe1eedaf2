import CommandVerbs.Proofs.Service.Dialling
import CommandVerbs.Proofs.Service.Replies
import CommandVerbs.Session.World

/-! Adapters whose connections can be relied on. Those over wires are of this kind if everyone is let in
and no wire refuses to close. -/
namespace CommandVerbs

/-- There is a connection to be had, which closes, answers calls and stays such. -/
structure Adapters.Reliable {κ ω : Type} (a : Adapters κ ω) (usable : κ → Prop) : Prop where
  connects : ∀ target retries w,
    ∃ connection v, a.connect target retries w = (.ok connection, v) ∧ usable connection
  closes : ∀ connection w, usable connection → ∃ v, a.close connection w = (.ok (), v)
  answers : ∀ connection procedure parameters w, usable connection →
    ∃ response next v, a.call connection procedure parameters w = (response, next, v) ∧
      response ≠ .error .notConnected ∧ usable next

namespace Service.Client

variable {codec : Codec} {c : Client}

/-- An open client that can be closed. -/
structure Usable (c : Client) : Prop where
  opened : c.closed = false
  closable : c.wire.closeRefusal = none

/-- Whatever a line means, it came over a connection. -/
theorem response?_ne_notConnected (line : List UInt8) :
    response? codec line ≠ .error .notConnected := by
  have meant : Means codec line (response? codec line) := means_response? line
  generalize response? codec line = answer at meant
  cases meant <;> simp

theorem Usable.call (usable : c.Usable) (procedure : String) (parameters : List Json) :
    (c.call codec procedure parameters).2 ≠ .error .notConnected ∧
      (c.call codec procedure parameters).1.Usable := by
  unfold Client.call
  simp only [usable.opened, Bool.false_eq_true, if_false]
  split
  · exact ⟨by simp [invalidJson], rfl, usable.closable⟩
  · split
    · exact ⟨by simp, rfl, usable.closable⟩
    · exact ⟨response?_ne_notConnected _, rfl, usable.closable⟩

theorem Usable.logIn (usable : c.Usable) (target : Target) : (c.logIn codec target).1.Usable := by
  unfold Client.logIn
  split
  · exact usable
  · rename_i username named
    have after : (c.call codec loginProcedure
        [.text username, .text (target.password.getD "")]).1.Usable := (usable.call _ _).2
    split
    · rename_i next fault called
      rwa [called] at after
    · rename_i next response called
      rw [called] at after
      split <;> exact after

theorem Usable.close (usable : c.Usable) : c.close.2 = .ok () := by
  unfold Client.close
  simp only [usable.opened, usable.closable, Bool.false_eq_true, if_false]

end Service.Client

namespace World

open Service (Client Wire)

variable {σ : Type} {codec : Service.Codec}

/-- Every attempt to connect gets hold of a wire that can be closed and lets in whom the target names. -/
def Welcoming (codec : Service.Codec)
    (attempt : Service.Target → World σ → Except String Wire × World σ) : Prop :=
  ∀ target w, ∃ wire v, attempt target w = (.ok wire, v) ∧ wire.closeRefusal = none ∧
    (Client.logIn codec { wire } target).2 = .ok ()

theorem wired_reliable (launcher : Launcher) (help : List String → Bool → Except Fault String)
    (package : PackageRequest → World σ → Except Fault (List String) × World σ)
    {attempt : Service.Target → World σ → Except String Wire × World σ}
    (welcoming : Welcoming codec attempt) :
    (adapters launcher help package (wired codec attempt)).Reliable Client.Usable where
  connects target retries w := by
    obtain ⟨wire, v, attempted, closable, welcome⟩ := welcoming target w
    have fresh : Client.Usable { wire } := ⟨rfl, closable⟩
    refine ⟨(Client.logIn codec { wire } target).1,
      (v.report .attemptSucceeded).report .connected, ?_, fresh.logIn target⟩
    have made : (wired codec attempt).connect target retries w =
        (.ok (Client.logIn codec { wire } target).1, v.report .attemptSucceeded) := by
      simp only [wired, Service.Dialler.connect]
      rw [Service.Dialler.tryFrom_reached attempted]
      simp only [dialler, welcome]
      rfl
    simp only [adapters, made]
  closes client w usable := ⟨w, by simp only [adapters, wired, usable.close]⟩
  answers client procedure parameters w usable := by
    obtain ⟨answered, still⟩ := usable.call procedure parameters
    exact ⟨_, _, w, rfl, answered, still⟩

/-- A reply that lets in whoever has logged in. -/
def welcomingReply : Service.Reply :=
  .ofResponse (.success []) (Service.Response.sendable_success (List.forall_mem_nil _))

variable {writeValue : Json → String} {writeResponse : Service.Response → String} {depth : Nat}

theorem logIn_welcomingReply (compact : codec.Compact writeValue)
    (faithful : codec.Faithful writeResponse depth) (room : 2 ≤ depth) (target : Service.Target) :
    (Client.logIn codec (Client.connected (welcomingReply.line writeResponse) none) target).2 =
      .ok () := by
  unfold Client.logIn
  split
  · rfl
  · rename_i username named
    have cut : Service.Cut (welcomingReply.line writeResponse) [welcomingReply.line writeResponse] := by
      simpa using Service.Reply.cut_replies faithful [welcomingReply]
    obtain ⟨request, written, -⟩ := compact.writeRequest
      ⟨.ofNat 1, Client.loginProcedure, [.text username, .text (target.password.getD "")]⟩
    obtain ⟨answer, -⟩ := (Client.before_connected cut none).call cut written
    have answered := welcomingReply.answered_line faithful
    rw [List.getD_cons_zero] at answer
    rw [← answer] at answered
    split
    · rename_i next fault called
      rw [called] at answered
      cases answered with
      | refused reason deep => exact absurd deep (Nat.not_lt.mpr room)
    · rename_i next response called
      rw [called] at answered
      cases answered
      rfl

/-- Attempts that get hold of wires on which everyone is let in. -/
theorem welcoming_of_reply (compact : codec.Compact writeValue)
    (faithful : codec.Faithful writeResponse depth) (room : 2 ≤ depth) :
    Welcoming codec fun _ (w : World σ) =>
      (.ok (Client.connected (welcomingReply.line writeResponse) none).wire, w) :=
  fun target w => ⟨_, w, rfl, rfl, logIn_welcomingReply compact faithful room target⟩

end World

end CommandVerbs
