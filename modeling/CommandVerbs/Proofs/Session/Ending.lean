import CommandVerbs.Proofs.Lifecycle.Stages

/-! Scripts that end whatever they are told. A sequence ends if its parts do, and so does a command,
if its body and the hooks of its bundles end. -/
namespace CommandVerbs

namespace Script

variable {α β σ : Type} {P Q : α → Prop} {R : β → Prop} {script : Script α} {next : α → Script β}

/-- Nothing is cut off, and the values that the script may end with have a property. -/
inductive EndsIn (P : α → Prop) : Script α → Prop
  | done {value : α} : P value → EndsIn P (.done value)
  | fail (fault : Fault) : EndsIn P (.fail fault)
  | ask {request : Request} {next : request.Reply → Script α} :
      (∀ reply, EndsIn P (next reply)) → EndsIn P (.ask request next)

def Ends (script : Script α) : Prop := script.EndsIn fun _ => True

theorem EndsIn.mono (ends : script.EndsIn P) (weaker : ∀ value, P value → Q value) :
    script.EndsIn Q := by
  induction ends with
  | done holds => exact .done (weaker _ holds)
  | fail fault => exact .fail fault
  | ask _ ih => exact .ask ih

theorem EndsIn.ends (ends : script.EndsIn P) : script.Ends := ends.mono fun _ _ => trivial

theorem EndsIn.bind (ends : script.EndsIn P) (later : ∀ value, P value → (next value).EndsIn R) :
    (script >>= next).EndsIn R := by
  change (script.andThen next).EndsIn R
  induction ends with
  | done holds => exact later _ holds
  | fail fault => exact .fail fault
  | ask _ ih => exact .ask ih

theorem Ends.bind (ends : script.Ends) (later : ∀ value, (next value).EndsIn R) :
    (script >>= next).EndsIn R :=
  EndsIn.bind ends fun value _ => later value

theorem Ends.attempt (ends : script.Ends) : script.attempt.Ends := by
  induction ends with
  | done _ => exact .done trivial
  | fail fault => exact .done trivial
  | ask _ ih => exact .ask ih

theorem Ends.pure (value : α) : (Pure.pure value : Script α).Ends := .done trivial

theorem Ends.request (r : Request) : (Script.request r).Ends := .ask fun _ => .done trivial

theorem Ends.ofExcept {ε : Type} (fault : ε → Fault) (result : Except ε α) :
    (Script.ofExcept fault result).Ends := by
  cases result with
  | ok value => exact .done trivial
  | error e => exact .fail _

/-- A script that ends has an outcome. -/
theorem EndsIn.run (ends : script.EndsIn P) (runner : Runner σ) (s : σ) :
    (∃ value t, script.run runner s = (.done value, t) ∧ P value) ∨
      ∃ fault t, script.run runner s = (.failed fault, t) := by
  induction ends generalizing s with
  | done holds => exact .inl ⟨_, s, rfl, holds⟩
  | fail fault => exact .inr ⟨fault, s, rfl⟩
  | ask _ ih => exact ih _ _

theorem Ends.run_ne_unfinished (ends : script.Ends) (runner : Runner σ) (s : σ) :
    (script.run runner s).1 ≠ .unfinished := by
  rcases ends.run runner s with ⟨value, t, ran, -⟩ | ⟨fault, t, ran⟩ <;> simp [ran]

end Script

open Script (Ends EndsIn)

variable {v : Verb} {bundles started : List Bundle} {c : Command}

/-! ## Hooks -/

/-- The hooks of the bundle that take part in an execution end. -/
def Bundle.HooksEnd (v : Verb) (b : Bundle) : Prop :=
  ∀ kind script, b.hook? kind = some script → (script v).Ends

/-- Starting bundles ends with those that were started before or are started now. -/
theorem Bundle.startAll_ends (ends : ∀ b ∈ bundles, b.HooksEnd v) :
    (startAll v started bundles).EndsIn fun result =>
      ∀ b ∈ result.1, b ∈ started ∨ b ∈ bundles := by
  induction bundles generalizing started with
  | nil => exact .done fun b member => .inl member
  | cons b rest ih =>
    obtain ⟨here, ends⟩ := List.forall_mem_cons.mp ends
    -- the bundle joins those started, whether it has a hook to start it or not
    have further : (startAll v (b :: started) rest).EndsIn fun result =>
        ∀ k ∈ result.1, k ∈ started ∨ k ∈ b :: rest := by
      refine (ih ends).mono fun result among k member => ?_
      rcases among k member with earlier | later
      · rcases List.mem_cons.mp earlier with rfl | earlier
        · exact .inr List.mem_cons_self
        · exact .inl earlier
      · exact .inr (List.mem_cons_of_mem _ later)
    rw [startAll_cons]
    split
    · exact further
    · rename_i start provided
      refine (here .start start provided).attempt.bind fun result => ?_
      cases result with
      | ok _ => exact further
      | error fault => exact .done fun k member => .inl member

theorem Bundle.goAll_ends (ends : ∀ b ∈ bundles, b.HooksEnd v) : (goAll v bundles).Ends := by
  induction bundles with
  | nil => exact .pure ()
  | cons b rest ih =>
    obtain ⟨here, ends⟩ := List.forall_mem_cons.mp ends
    rw [goAll_cons]
    split
    · exact ih ends
    · rename_i go provided
      exact (here .go go provided).bind fun _ => ih ends

theorem Bundle.stopAll_ends (ends : ∀ b ∈ bundles, b.HooksEnd v) (first : Option Fault) :
    (stopAll v first bundles).Ends := by
  induction bundles generalizing first with
  | nil => exact .pure first
  | cons b rest ih =>
    obtain ⟨here, ends⟩ := List.forall_mem_cons.mp ends
    rw [stopAll_cons]
    split
    · exact ih ends first
    · rename_i stop provided
      refine (here .stop stop provided).attempt.bind fun result => ?_
      cases result with
      | ok _ => exact ih ends first
      | error fault =>
        cases first with
        | none => exact ih ends _
        | some earlier => exact (Ends.request _).bind fun _ => ih ends _

/-! ## Commands -/

theorem Command.conclude_ends (result : Except Fault Unit) (stopped : Option Fault) :
    (conclude result stopped).Ends := by
  cases result <;> cases stopped
  · exact .fail _
  · exact (Ends.request _).bind fun _ => .fail _
  · exact .pure ()
  · exact .fail _

theorem Command.run_ends {go : Script Unit} (hooks : ∀ b ∈ c.bundles, b.HooksEnd c.verb)
    (body : (c.body ⟨c.verb, c.bundles, go⟩).Ends) : (c.run go).Ends := by
  refine (Bundle.startAll_ends hooks).bind fun (started, ready) among => ?_
  have stops : ∀ b ∈ started, b.HooksEnd c.verb := by
    intro b member
    rcases among b member with none | given
    · contradiction
    · exact hooks b given
  have closing : ∀ result, (Bundle.stopAll c.verb none started >>= conclude result).Ends :=
    fun result => (Bundle.stopAll_ends stops none).bind fun _ => conclude_ends _ _
  cases ready with
  | ok _ => exact body.attempt.bind closing
  | error fault => exact closing (.error fault)

end CommandVerbs
