import CommandVerbs.CommandLine.Grammar
import CommandVerbs.Proofs.Bundle.Completing
import CommandVerbs.Proofs.Registry.Calls

/-! Validating a registry and making a grammar of it. Both look through the verbs in the order of
their registration, carry out the same reviews, and stop at the same verb with the same fault: the
first one whose arguments are not acceptable. -/
namespace CommandVerbs

/-- The fault of a result. -/
def refusal? {α : Type} : Except DeclarationFault α → Option DeclarationFault
  | .error fault => some fault
  | .ok _ => none

@[simp] theorem refusal?_error {α : Type} (fault : DeclarationFault) :
    refusal? (.error fault : Except DeclarationFault α) = some fault := rfl

@[simp] theorem refusal?_ok {α : Type} (value : α) :
    refusal? (.ok value : Except DeclarationFault α) = none := rfl

@[simp] theorem refusal?_map {α β : Type} (f : α → β) (result : Except DeclarationFault α) :
    refusal? (result.map f) = refusal? result := by
  cases result <;> rfl

theorem refusal?_eq_some {α : Type} {result : Except DeclarationFault α} {fault : DeclarationFault} :
    refusal? result = some fault ↔ result = .error fault := by
  cases result <;> simp [refusal?]

theorem refusal?_eq_none {α : Type} {result : Except DeclarationFault α} :
    refusal? result = none ↔ ∃ value, result = .ok value := by
  cases result <;> simp [refusal?]

theorem map_eq_of_refusal? {α : Type} {result : Except DeclarationFault α}
    {verdict : Except DeclarationFault Unit} (same : refusal? result = refusal? verdict) :
    result.map (fun _ => ()) = verdict := by
  cases verdict with
  | error fault =>
    rw [refusal?_eq_some.mp (same.trans (refusal?_error fault))]
    rfl
  | ok _ =>
    obtain ⟨value, rfl⟩ := refusal?_eq_none.mp (same.trans (refusal?_ok _))
    rfl

namespace Verb

variable {v : Verb}

/-- Making a grammar of a verb reviews as much of it as validation does. -/
theorem grammar_validates (v : Verb) :
    (VerbGrammar.ofVerb v).1 = v.validate.1 ∧
      refusal? (VerbGrammar.ofVerb v).2 = refusal? v.validate.2 := by
  simp only [VerbGrammar.ofVerb, readOpenArguments, readArguments, validate]
  cases v.reviewOptions.reviewArguments <;> exact ⟨rfl, rfl⟩

theorem Sound.validated (sound : Sound v) : Sound v.validate.1 := (sound.read .validation).1

/-- Validation refuses a sound verb for the first mistake in its arguments. -/
theorem Sound.refusal?_validate (sound : Sound v) :
    refusal? v.validate.2 = firstMistake? v.name v.arguments := by
  have answer := (sound.read .validation).2.2
  simp only [Verb.read, answerTo, ruling, Answer.verdict.injEq] at answer
  rw [answer, refusal?_map]
  cases firstMistake? v.name v.arguments <;> rfl

theorem firstMistake?_eq_none {name : String} {list : List ArgumentSpec} :
    firstMistake? name list = none ↔ Acceptable list := by
  rcases firstMistake?_cases name list with ⟨passed, acceptable⟩ | ⟨a, rule, wrong, offence⟩
  · exact ⟨fun _ => acceptable, fun _ => passed⟩
  · simp [wrong, offence.not_acceptable]

theorem firstMistake?_eq_some {name : String} {list : List ArgumentSpec} {mistake : DeclarationFault}
    (wrong : firstMistake? name list = some mistake) :
    ∃ a rule, FirstOffence list a rule ∧ mistake = rule.fault name a := by
  rcases firstMistake?_cases name list with ⟨passed, -⟩ | ⟨a, rule, found, offence⟩
  · simp [passed] at wrong
  · exact ⟨a, rule, offence, Option.some.inj (wrong.symm.trans found)⟩

end Verb

namespace Registry

variable {r : Registry} {α β : Type} {P : Verb → Prop}
  {look : Verb → Verb × Except DeclarationFault α} {other : Verb → Verb × Except DeclarationFault β}

/-! ## Looking through the verbs -/

/-- Two ways to look through verbs agree if they agree on every verb. -/
theorem visit_agrees
    (agree : ∀ v, (look v).1 = (other v).1 ∧ refusal? (look v).2 = refusal? (other v).2)
    (verbs : KeyMap Entry) (names : List String) :
    (visit look verbs names).1 = (visit other verbs names).1 ∧
      refusal? (visit look verbs names).2 = refusal? (visit other verbs names).2 := by
  induction names generalizing verbs with
  | nil => exact ⟨rfl, rfl⟩
  | cons name rest ih =>
    cases found : verbs.get? name with
    | none => simpa only [visit, found] using ih verbs
    | some e =>
      have here := agree e.verb
      cases looked : look e.verb with
      | mk verb result =>
      cases looked' : other e.verb with
      | mk verb' result' =>
      rw [looked, looked'] at here
      obtain ⟨rfl, same⟩ := here
      cases result with
      | error fault =>
        obtain rfl := refusal?_eq_some.mp same.symm
        simp only [visit, found, looked, looked', refusal?_error, and_self]
      | ok value =>
        obtain ⟨value', rfl⟩ := refusal?_eq_none.mp same.symm
        simpa only [visit, found, looked, looked', refusal?_map] using ih _

/-- Looking through verbs of distinct names is refused by the first verb that is refused. -/
theorem refusal?_visit (verbs : KeyMap Entry) {names : List String} (nodup : names.Nodup) :
    refusal? (visit look verbs names).2 =
      (names.filterMap verbs.get?).findSome? fun e => refusal? (look e.verb).2 := by
  induction names generalizing verbs with
  | nil => rfl
  | cons name rest ih =>
    obtain ⟨new, nodup⟩ := List.nodup_cons.mp nodup
    cases found : verbs.get? name with
    | none => simpa only [visit, found, List.filterMap_cons] using ih verbs nodup
    | some e =>
      simp only [List.filterMap_cons, found, List.findSome?_cons]
      cases looked : look e.verb with
      | mk verb result =>
      cases result with
      | error fault =>
        simp only [visit, found, looked, refusal?_error]
      | ok value =>
        -- the verb that has been looked at is put back, and is not among those still to come
        have unchanged : rest.filterMap (verbs.insert name (e.withVerb verb)).get? =
            rest.filterMap verbs.get? := by
          refine List.filterMap_congr fun later member => ?_
          exact KeyMap.get?_insert_other _ _ fun same => new (same ▸ member)
        simp only [visit, found, looked, refusal?_map, ih _ nodup, unchanged, refusal?_ok]

/-! ## What can be done with a registry -/

inductive Action where
  | call (call : Call)
  /-- an operation on the registered verb of a name -/
  | revise (name : String) (op : Verb.Operation)
  | build (program : Program) (configured : Option String)

/-- The registry after an action, whether it succeeds or fails. -/
def act (r : Registry) : Action → Registry
  | .call call => (r.perform call).1
  | .revise name op =>
    match r.get? name with
    | none => r
    | some e => r.update (e.verb.perform op).1
  | .build program configured => (Grammar.ofRegistry program configured r).1

def actAll (r : Registry) (actions : List Action) : Registry := actions.foldl act r

/-- Whether the action declares a verb or something of a verb. -/
def Action.declares : Action → Bool
  | .call .validateAll | .build _ _ => false
  | .call _ => true
  | .revise _ op => op.changes

/-- Verbs come sound into the registry: a verb that is added is so, and the bundles of a declared one
keep it so. -/
def Action.Proper : Action → Prop
  | .call (.command _ _ d) | .call (.multiCommand _ _ d) => ∀ b ∈ d.bundles, b.KeepsSound
  | .call (.add e) => e.verb.Sound
  | .call .validateAll | .revise _ _ | .build _ _ => True

def All (r : Registry) (P : Verb → Prop) : Prop := ∀ name e, r.get? name = some e → P e.verb

/-- The names are distinct and those of the verbs, which are sound. -/
structure Coherent (r : Registry) : Prop where
  nodup : r.order.Nodup
  known : ∀ name, (r.get? name).isSome ↔ name ∈ r.order
  sound : r.All Verb.Sound

theorem All.validateAll (all : r.All P) (kept : ∀ v, P v → P v.validate.1) :
    r.validateAll.1.All P := by
  intro name
  refine (visit_keeps (P := fun _ e => P e.verb) (fun _ e holds => ?_) r.order all name).2
  simpa only [Entry.withVerb_verb] using kept e.verb holds

theorem get?_update (r : Registry) (v : Verb) (name : String) :
    (r.update v).get? name =
      if name = v.name then (r.get? name).map (·.withVerb v) else r.get? name := by
  unfold update
  by_cases same : name = v.name
  · subst same
    cases found : r.get? v.name with
    | none => simp [found]
    | some e => simp [get?, KeyMap.get?_insert_same]
  · cases found : r.get? v.name with
    | none => simp [same]
    | some e => simp [get?, KeyMap.get?_insert_other _ _ same, same]

theorem update_order (r : Registry) (v : Verb) : (r.update v).order = r.order := by
  unfold update
  split <;> rfl

theorem All.update {v : Verb} (all : r.All P) (holds : P v) : (r.update v).All P := by
  intro name e found
  rw [get?_update] at found
  split at found
  · obtain ⟨first, -, rfl⟩ := Option.map_eq_some_iff.mp found
    rwa [Entry.withVerb_verb]
  · exact all name e found

theorem build_eq (r : Registry) (program : Program) (configured : Option String) :
    (Grammar.ofRegistry program configured r).1 = r.validateAll.1 ∧
      refusal? (Grammar.ofRegistry program configured r).2 = refusal? r.validateAll.2 := by
  obtain ⟨verbs, refusals⟩ := visit_agrees Verb.grammar_validates r.verbs r.order
  simp only [Grammar.ofRegistry, validateAll, verbs, refusal?_map, refusals, and_self]

/-! ## Reachable registries -/

theorem Coherent.empty : Coherent {} where
  nodup := .nil
  known name := by simp [get?, KeyMap.get?, KeyMap.empty]
  sound name e found := by simp [get?, KeyMap.get?, KeyMap.empty] at found

theorem Coherent.add {added : Registry} {e : Entry} (coherent : Coherent r) (sound : e.verb.Sound)
    (new : r.add e = .ok added) : Coherent added := by
  unfold Registry.add at new
  split at new
  · contradiction
  · rename_i absent
    obtain rfl := Except.ok.inj new
    have missing : e.name ∉ r.order := fun member => absent ((coherent.known e.name).mpr member)
    refine ⟨?_, fun name => ?_, fun name f found => ?_⟩
    · exact List.nodup_append.mpr ⟨coherent.nodup, by simp, by grind⟩
    · by_cases same : name = e.name
      · simp [get?, same, KeyMap.get?_insert_same]
      · have known := coherent.known name
        rw [get?] at known
        simp [get?, KeyMap.get?_insert_other _ _ same, same, known]
    · rw [get?] at found
      by_cases same : name = e.name
      · subst same
        rw [KeyMap.get?_insert_same] at found
        exact Option.some.inj found ▸ sound
      · rw [KeyMap.get?_insert_other _ _ same] at found
        exact coherent.sound name f found

theorem Coherent.validateAll (coherent : Coherent r) : Coherent r.validateAll.1 where
  nodup := coherent.nodup
  known name := by
    have kept : ((visit Verb.validate r.verbs r.order).1.get? name).isSome =
        (r.verbs.get? name).isSome :=
      (visit_keeps (P := fun _ _ => True) (fun _ _ _ => trivial) r.order (fun _ _ _ => trivial)
        name).1
    exact kept ▸ coherent.known name
  sound := coherent.sound.validateAll fun _ sound => sound.validated

theorem Coherent.update {v : Verb} (coherent : Coherent r) (sound : v.Sound) :
    Coherent (r.update v) where
  nodup := update_order r v ▸ coherent.nodup
  known name := by
    rw [update_order, ← coherent.known name, get?_update]
    split <;> simp
  sound := coherent.sound.update sound

theorem declare_multi_sound {name : String} {body : Body} {d : Declaration}
    {made : MultiCommand × List String} (declared : MultiCommand.declare name body d = .ok made)
    (keep : ∀ b ∈ d.bundles, b.KeepsSound) : made.1.command.verb.Sound := by
  have completed := (Verb.Sound.ofDeclaration name d).completeAll keep
  rw [(declare_multi_verb declared).2]
  exact ((completed.change (.complete _)).change (.addArguments _)).change (.addArguments _)

/-- A verb that is offered properly is sound. -/
theorem Action.Proper.offer_sound {call : Call} {e : Entry} (proper : Action.Proper (.call call))
    (offer : call.offer? = some e) : e.verb.Sound := by
  cases call with
  | command name body d =>
    rw [← Option.some.inj offer]
    exact (Verb.Sound.ofDeclaration name d).completeAll proper
  | multiCommand name body d =>
    cases declared : MultiCommand.declare name body d with
    | error fault => simp [Call.offer?, declared] at offer
    | ok made =>
      obtain rfl : Entry.multi made.1 = e := by simpa [Call.offer?, declared] using offer
      exact declare_multi_sound declared proper
  | add e' => exact Option.some.inj offer ▸ proper
  | validateAll => contradiction

theorem Coherent.act (coherent : Coherent r) {action : Action} (proper : action.Proper) :
    Coherent (r.act action) := by
  cases action with
  | call call =>
    cases offer : call.offer? with
    | some e =>
      rw [Registry.act, perform_offer offer]
      cases added : r.add e with
      | error fault => exact coherent
      | ok registry => exact coherent.add (proper.offer_sound offer) added
    | none =>
      rcases offer?_eq_none.mp offer with rfl | ⟨name, body, d, rfl, none⟩
      · exact coherent.validateAll
      · rwa [Registry.act, perform_multi_refused none]
  | revise name op =>
    rw [Registry.act]
    cases found : r.get? name with
    | none => exact coherent
    | some e => exact coherent.update ((coherent.sound name e found).perform op)
  | build program configured =>
    rw [Registry.act, (build_eq r program configured).1]
    exact coherent.validateAll

theorem Coherent.actAll {actions : List Action} (coherent : Coherent r)
    (proper : ∀ action ∈ actions, action.Proper) : Coherent (r.actAll actions) := by
  induction actions generalizing r with
  | nil => exact coherent
  | cons action rest ih =>
    obtain ⟨here, proper⟩ := List.forall_mem_cons.mp proper
    exact ih (coherent.act here) proper

/-- Every verb has arguments that a verb may have. -/
def AllAcceptable (r : Registry) : Prop := r.All fun v => Verb.Acceptable v.arguments

theorem Coherent.mem_entries (coherent : Coherent r) {e : Entry} :
    e ∈ r.entries ↔ ∃ name, r.get? name = some e := by
  rw [entries, List.mem_filterMap]
  refine ⟨fun ⟨name, _, found⟩ => ⟨name, found⟩, fun ⟨name, found⟩ => ⟨name, ?_, found⟩⟩
  exact (coherent.known name).mp (Option.isSome_iff_exists.mpr ⟨e, found⟩)

/-- Validation refuses a registry for the mistake of the first verb that has one. -/
theorem Coherent.refusal?_validateAll (coherent : Coherent r) :
    refusal? r.validateAll.2 =
      r.entries.findSome? fun e => Verb.firstMistake? e.verb.name e.verb.arguments := by
  have refused : refusal? (visit Verb.validate r.verbs r.order).2 = _ :=
    refusal?_visit r.verbs coherent.nodup
  rw [Registry.validateAll, refusal?_map, refused, ← List.head?_filterMap, ← List.head?_filterMap]
  refine congrArg List.head? (List.filterMap_congr fun e member => ?_)
  obtain ⟨name, found⟩ := coherent.mem_entries.mp member
  exact (coherent.sound name e found).refusal?_validate

theorem Coherent.passes_iff (coherent : Coherent r) :
    refusal? r.validateAll.2 = none ↔ r.AllAcceptable := by
  rw [coherent.refusal?_validateAll, List.findSome?_eq_none_iff]
  constructor
  · intro passed name e found
    exact Verb.firstMistake?_eq_none.mp (passed e (coherent.mem_entries.mpr ⟨name, found⟩))
  · intro acceptable e member
    obtain ⟨name, found⟩ := coherent.mem_entries.mp member
    exact Verb.firstMistake?_eq_none.mpr (acceptable name e found)

theorem Coherent.verdict (coherent : Coherent r) :
    (∀ e ∈ r.entries, Verb.Acceptable e.verb.arguments) ∧ r.validateAll.2 = .ok () ∨
      ∃ before e later a rule, r.entries = before ++ e :: later ∧
        (∀ b ∈ before, Verb.Acceptable b.verb.arguments) ∧
        Verb.FirstOffence e.verb.arguments a rule ∧
        r.validateAll.2 = .error (rule.fault e.verb.name a) := by
  have refusal := coherent.refusal?_validateAll
  cases verdict : r.validateAll.2 with
  | ok value =>
    refine .inl ⟨fun e member => ?_, rfl⟩
    obtain ⟨name, found⟩ := coherent.mem_entries.mp member
    exact coherent.passes_iff.mp (by rw [verdict, refusal?_ok]) name e found
  | error fault =>
    rw [verdict, refusal?_error] at refusal
    obtain ⟨before, e, later, split, wrong, earlier⟩ := List.findSome?_eq_some_iff.mp refusal.symm
    obtain ⟨a, rule, offence, rfl⟩ := Verb.firstMistake?_eq_some wrong
    exact .inr ⟨before, e, later, a, rule, split,
      fun b member => Verb.firstMistake?_eq_none.mp (earlier b member), offence, rfl⟩

theorem AllAcceptable.validateAll (acceptable : r.AllAcceptable) : r.validateAll.1.AllAcceptable :=
  All.validateAll acceptable fun v holds => (Verb.validate_alike v).arguments ▸ holds

theorem AllAcceptable.act (acceptable : r.AllAcceptable) (coherent : Coherent r) {action : Action}
    (quiet : action.declares = false) : (r.act action).AllAcceptable := by
  cases action with
  | call call =>
    cases call with
    | validateAll => exact acceptable.validateAll
    | _ => contradiction
  | revise name op =>
    cases op with
    | change c => contradiction
    | read reading =>
      rw [Registry.act]
      cases found : r.get? name with
      | none => exact acceptable
      | some e =>
        obtain ⟨-, alike, -⟩ := (coherent.sound name e found).read reading
        refine All.update acceptable ?_
        rw [Verb.perform, alike.arguments]
        exact acceptable name e found
  | build program configured =>
    rw [Registry.act, (build_eq r program configured).1]
    exact acceptable.validateAll

theorem Action.proper_of_quiet {action : Action} (quiet : action.declares = false) :
    action.Proper := by
  cases action with
  | call call => cases call <;> first | contradiction | trivial
  | _ => trivial

theorem AllAcceptable.actAll {actions : List Action} (acceptable : r.AllAcceptable)
    (coherent : Coherent r) (quiet : ∀ action ∈ actions, action.declares = false) :
    (r.actAll actions).AllAcceptable := by
  induction actions generalizing r with
  | nil => exact acceptable
  | cons action rest ih =>
    obtain ⟨here, quiet⟩ := List.forall_mem_cons.mp quiet
    exact ih (acceptable.act coherent here) (coherent.act (Action.proper_of_quiet here)) quiet

/-- Whatever has been done with a registry, validating it and making a grammar of it leave the same
registry behind, with the same verdict. The verbs pass if all of their arguments are acceptable;
otherwise the fault is the first offence of the first verb in the order of registration that has one.
Once they have passed, and until something more is declared, a grammar can be made. -/
theorem building_validates {actions : List Action} (proper : ∀ action ∈ actions, action.Proper)
    (reached : actAll {} actions = r) :
    (∀ program configured,
      (Grammar.ofRegistry program configured r).1 = r.validateAll.1 ∧
      (Grammar.ofRegistry program configured r).2.map (fun _ => ()) = r.validateAll.2) ∧
    ((∀ e ∈ r.entries, Verb.Acceptable e.verb.arguments) ∧ r.validateAll.2 = .ok () ∨
      ∃ before e later a rule, r.entries = before ++ e :: later ∧
        (∀ b ∈ before, Verb.Acceptable b.verb.arguments) ∧
        Verb.FirstOffence e.verb.arguments a rule ∧
        r.validateAll.2 = .error (rule.fault e.verb.name a)) ∧
    (r.validateAll.2 = .ok () → ∀ more : List Action, (∀ action ∈ more, action.declares = false) →
      ∀ program configured, ∃ grammar,
        (Grammar.ofRegistry program configured (r.validateAll.1.actAll more)).2 = .ok grammar) := by
  have coherent : Coherent r := reached ▸ Coherent.empty.actAll proper
  refine ⟨fun program configured => ?_, coherent.verdict, fun passed more quiet program configured => ?_⟩
  · obtain ⟨left, refusals⟩ := build_eq r program configured
    exact ⟨left, map_eq_of_refusal? refusals⟩
  · -- nothing that declares nothing makes arguments unacceptable
    have acceptable : r.AllAcceptable := coherent.passes_iff.mp (by rw [passed, refusal?_ok])
    have later := (acceptable.validateAll).actAll coherent.validateAll quiet
    have settled := coherent.validateAll.actAll fun action member =>
      Action.proper_of_quiet (quiet action member)
    rw [← refusal?_eq_none, (build_eq _ program configured).2]
    exact settled.passes_iff.mpr later

/-- A verb that has been read, one that has not, and one with an argument that takes any number of
values before another. -/
def mixed : List Action :=
  [.call (.command "stop" (fun _ => .done ())
      { arguments := [{ name := "host", help := "", min := 0 }], bundles := [.help] }),
    .call (.command "start" (fun _ => .done ()) { arguments := [{ name := "host", help := "" }] }),
    .call (.add (.bare { name := "load" })),
    .revise "start" (.read .arguments),
    .revise "load" (.change (.addArguments [{ name := "file", help := "" }]))]

theorem building_validates_mixed :
    (∀ action ∈ mixed, action.Proper) ∧ (actAll {} mixed).order = ["stop", "start", "load"] ∧
    (actAll {} mixed).validateAll.2 = .error (.nonTerminalCounts "stop" "host") ∧
    ∀ program configured, (Grammar.ofRegistry program configured (actAll {} mixed)).2.map
      (fun _ => ()) = .error (.nonTerminalCounts "stop" "host") := by
  have proper : ∀ action ∈ mixed, action.Proper := by
    simp only [mixed, List.forall_mem_cons]
    exact ⟨by simp [Action.Proper, Bundle.Stock.help.operates.keepsSound], by simp [Action.Proper],
      Verb.Sound.initial "load", trivial, trivial, by simp⟩
  have refused : (actAll {} mixed).validateAll.2 = .error (.nonTerminalCounts "stop" "host") := by
    decide +kernel
  obtain ⟨agree, -⟩ := building_validates proper rfl
  exact ⟨proper, by decide +kernel, refused, fun program configured =>
    (agree program configured).2.trans refused⟩

end Registry

end CommandVerbs
