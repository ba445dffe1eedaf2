import CommandVerbs.Proofs.Config.ConfiguredCatalog
import CommandVerbs.Proofs.Config.StoreLoading

/-! What is left when a command about settings fails. Setting looks at all arguments before it binds a
pair, but not at what the store refuses: a pair or a property that is refused ends the command after
those before it have been saved, and nothing takes them back. -/
namespace CommandVerbs.Config

/-- The store is left with the pairs bound that come before the first one that is refused. It is as it
was only if all of these were there already. -/
def Interrupted (store : Store) (pairs : List (String × String)) (fault : ConfigFault) (left : Store) :
    Prop :=
  ∃ before refused later, pairs = before ++ refused :: later ∧
    (∀ pair ∈ before, store.refusal? pair = none) ∧ store.refusal? refused = some fault ∧
    BoundInOrder store.stored before store.get? left.get? ∧
    ((∀ key, left.get? key = store.get? key) ↔ Standing store.stored before store.get?)

theorem interrupted_bindAll {store : Store} {pairs : List (String × String)} {fault : ConfigFault}
    (stopped : store.fault? pairs = some fault) :
    Interrupted store pairs fault (store.bindAll (store.accepted pairs)) := by
  obtain ⟨refused, later, split, fine, reason⟩ := Store.exists_refused stopped
  have bound := store.boundInOrder (store.accepted pairs)
  exact ⟨_, refused, later, split, fine, reason, bound, bound.same_iff⟩

/-- Where the store can be saved, setting fails with nothing changed because of its arguments, or else
setting, loading and resetting fail at the first pair that the store refuses, with those before it
bound. -/
theorem failed_command_leaves {σ : Type} {runner : Runner σ} {rep : StoreView → σ → Prop}
    (host : StoreHost runner rep) (tool : Tool) {view : StoreView} {s t : σ} {fault : Fault}
    (seen : rep view s) (saves : view.saves) :
    (tool.set.run runner s = (.failed fault, t) →
      (∃ message bad, fault = .aborted message bad) ∧ rep view t ∨
      ∃ reason left output, fault = .config reason ∧ rep { view with store := left, output } t ∧
        Interrupted view.store (view.arguments.filterMap tool.assignment?) reason left) ∧
    (∀ reset, (tool.load reset).run runner s = (.failed fault, t) →
      ∃ reason left, fault = .config reason ∧ rep { view with store := left } t ∧
        Interrupted view.store (tool.dueIn view.store reset) reason left) ∧
    (tool.reset.run runner s = (.failed fault, t) →
      ∃ reason left output, fault = .config reason ∧ rep { view with store := left, output } t ∧
        Interrupted view.store (tool.dueIn view.store true) reason left) := by
  refine ⟨fun failed => ?_, fun reset failed => ?_, fun failed => ?_⟩
  · by_cases bad : view.arguments = [] ∨ ∃ argument ∈ view.arguments, tool.assignment? argument = none
    · obtain ⟨u, ran, kept⟩ := host.set_aborted tool seen bad
      obtain ⟨same, rfl⟩ := Prod.mk.inj (ran.symm.trans failed)
      exact .inl ⟨⟨_, _, (Outcome.failed.inj same).symm⟩, kept⟩
    · push Not at bad
      obtain ⟨some, good⟩ := bad
      obtain ⟨u, ran, left⟩ := host.run_set tool seen saves some
        fun argument member => Option.isSome_iff_ne_none.mpr (good argument member)
      obtain ⟨same, rfl⟩ := Prod.mk.inj (ran.symm.trans failed)
      obtain ⟨reason, stopped, rfl⟩ := ended_eq_failed same
      exact .inr ⟨reason, _, _, rfl, left, interrupted_bindAll stopped⟩
  · obtain ⟨u, ran, left⟩ := host.run_load tool reset seen (.inl saves)
    obtain ⟨same, rfl⟩ := Prod.mk.inj (ran.symm.trans failed)
    obtain ⟨reason, stopped, rfl⟩ := ended_eq_failed same
    exact ⟨reason, _, rfl, left, interrupted_bindAll stopped⟩
  · cases verdict : view.store.fault? (tool.dueIn view.store true) with
    | none =>
      obtain ⟨u, ran, -⟩ := host.run_reset tool seen (.inl saves) verdict
      exact absurd (ran.symm.trans failed) (by simp)
    | some reason =>
      obtain ⟨u, ran, left⟩ := host.reset_refused tool seen saves verdict
      obtain ⟨same, rfl⟩ := Prod.mk.inj (ran.symm.trans failed)
      exact ⟨reason, _, _, (Outcome.failed.inj same).symm, left, interrupted_bindAll verdict⟩

/-- A session with nothing in its settings file, where the second argument spans two lines. -/
def halfSet : Session Empty (World Unit) :=
  sessionOf ["a=1", "b=x\ny"] (.emptyAt []) ⟨"verbkit.cfg", .empty⟩

theorem failed_command_leaves_half_set :
    let store : Store := .file ⟨"verbkit.cfg", .empty⟩
    let reason : ConfigFault := .malformed "value for \"server.b\" spans lines"
    let t := ((StockVerbs.tool "verbkit").set.run (Session.runner unconnected) halfSet).2
    store.Saves (.emptyAt []) ∧
      (StockVerbs.tool "verbkit").set.run (Session.runner unconnected) halfSet =
        (.failed (.config reason), t) ∧
      Interrupted store [("server.a", "1"), ("server.b", "x\ny")] reason t.world.store := by
  intro store reason t
  have saves : store.Saves (.emptyAt []) := ⟨_, rfl⟩
  have seen : storeInSession ⟨["a=1", "b=x\ny"], store, True, ""⟩ halfSet :=
    ⟨by decide +kernel, rfl, iff_of_true trivial saves, rfl⟩
  have failed : (StockVerbs.tool "verbkit").set.run (Session.runner unconnected) halfSet =
      (.failed (.config reason), t) := Prod.ext (by decide +kernel) rfl
  have host : StoreHost (Session.runner unconnected) storeInSession := session_storeHost _ _ _ _
  obtain ⟨set, -⟩ := failed_command_leaves host (StockVerbs.tool "verbkit") seen trivial
  rcases set failed with ⟨⟨_, _, aborted⟩, -⟩ | ⟨_, left, _, same, ⟨-, held, -⟩, interrupted⟩
  · contradiction
  obtain rfl := Fault.config.inj same
  obtain rfl : t.world.store = left := held
  have pairs : ["a=1", "b=x\ny"].filterMap (StockVerbs.tool "verbkit").assignment? =
      [("server.a", "1"), ("server.b", "x\ny")] := by decide +kernel
  rw [pairs] at interrupted
  exact ⟨saves, failed, interrupted⟩

/-- The first pair is saved although the command fails. -/
theorem half_set_saved :
    let after := (StockVerbs.tool "verbkit").set.run (Session.runner unconnected) halfSet
    after.1 = .failed (.config (.malformed "value for \"server.b\" spans lines")) ∧
      halfSet.world.store.get? "server.a" = none ∧ after.2.world.store.get? "server.a" = some "1" ∧
      after.2.world.files.read "verbkit.cfg" = .ok "server.a=1\n" := by
  decide +kernel

end CommandVerbs.Config
