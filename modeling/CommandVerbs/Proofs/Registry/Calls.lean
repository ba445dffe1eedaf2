import CommandVerbs.Proofs.KeyMap
import CommandVerbs.Proofs.Verb.Operations
import CommandVerbs.Registry

/-! What can be called on a registry, and what it holds afterwards. The map of verbs and the list of
names are changed together or not at all, and of each name the verb stays that was offered first;
validating it carries out what is due and changes nothing else. -/
namespace CommandVerbs

namespace Verb

variable {v : Verb}

theorem reviewOptions_done (v : Verb) : v.reviewOptions.optionsReview = .done := by
  unfold reviewOptions
  split
  · assumption
  · rfl

theorem reviewOptions_of_done (done : v.optionsReview = .done) : v.reviewOptions = v := by
  simp only [reviewOptions, done]

theorem validate_of_done (options : v.optionsReview = .done) (arguments : v.argumentsReview = .done) :
    v.validate = (v, .ok ()) := by
  simp only [validate, reviewOptions, reviewArguments, options, arguments]

/-- There is nothing left to do for a verb that has been validated. -/
theorem validate_again (v : Verb) : v.validate.1.validate.1 = v.validate.1 := by
  have sorted := v.reviewOptions_done
  cases reviewed : v.reviewOptions.reviewArguments with
  | error fault =>
    have first : v.validate.1 = v.reviewOptions := by simp only [validate, reviewed]
    rw [first, validate, reviewOptions_of_done sorted, reviewed]
  | ok checked =>
    have first : v.validate.1 = checked := by simp only [validate, reviewed]
    have same := reviewArguments_ok reviewed
    rw [first, validate_of_done (same ▸ sorted) (same ▸ rfl)]

end Verb

namespace Entry

/-- The verb with its due reviews carried out. -/
def validated (e : Entry) : Entry := e.withVerb e.verb.validate.1

@[simp] theorem withVerb_verb (e : Entry) (verb : Verb) : (e.withVerb verb).verb = verb := by
  cases e <;> rfl

theorem withVerb_withVerb (e : Entry) (first second : Verb) :
    (e.withVerb first).withVerb second = e.withVerb second := by
  cases e <;> rfl

theorem validated_again (e : Entry) : e.validated.validated = e.validated := by
  rw [validated, validated, withVerb_verb, withVerb_withVerb, Verb.validate_again]

/-- The entry is the one that was registered, apart from reviews. -/
def Keeps (first e : Entry) : Prop := e = first ∨ e = first.validated

theorem Keeps.validated {first e : Entry} (keeps : Keeps first e) : Keeps first e.validated := by
  rcases keeps with rfl | rfl
  · exact .inr rfl
  · exact .inr first.validated_again

end Entry

namespace Registry

/-- What can be called on a registry. -/
inductive Call where
  | command (name : String) (body : Body) (declaration : Declaration)
  | multiCommand (name : String) (body : Body) (declaration : Declaration)
  | add (entry : Entry)
  | validateAll

/-- The verb that a call offers for registration. -/
def Call.offer? : Call → Option Entry
  | .command name body d => some (.command (Command.declare name body d).1)
  | .multiCommand name body d =>
    match MultiCommand.declare name body d with
    | .ok (m, _) => some (.multi m)
    | .error _ => none
  | .add e => some e
  | .validateAll => none

def perform (r : Registry) : Call → Registry × Except DeclarationFault Unit
  | .command name body d => ((r.command name body d).registry, (r.command name body d).result)
  | .multiCommand name body d =>
    ((r.multiCommand name body d).registry, (r.multiCommand name body d).result)
  | .add e =>
    match r.add e with
    | .ok added => (added, .ok ())
    | .error fault => (r, .error fault)
  | .validateAll => r.validateAll

/-- The registry after calls, whether they succeed or fail. -/
def after (r : Registry) : List Call → Registry
  | [] => r
  | call :: rest => (r.perform call).1.after rest

/-- The verbs that calls offer, in the order of time. -/
def offered (calls : List Call) : List Entry := calls.filterMap Call.offer?

/-- The registry holds, of each name, the entry that was offered first, and lists the names as they
were first offered. -/
structure Holds (r : Registry) (offers : List Entry) : Prop where
  order : r.order = (offers.map Entry.name).eraseDups
  nodup : r.order.Nodup
  known : ∀ name, (r.get? name).isSome ↔ name ∈ r.order
  first : ∀ name e, r.get? name = some e →
    ∃ first, offers.find? (·.name == name) = some first ∧ first.Keeps e

variable {r : Registry} {offers : List Entry} {call : Call} {e : Entry}

theorem Holds.empty : Holds {} [] where
  order := rfl
  nodup := .nil
  known name := by simp [get?, KeyMap.get?, KeyMap.empty]
  first name e found := by simp [get?, KeyMap.get?, KeyMap.empty] at found

/-! ## Registrations -/

theorem perform_offer (offer : call.offer? = some e) :
    r.perform call =
      match r.add e with
      | .ok added => (added, .ok ())
      | .error fault => (r, .error fault) := by
  cases call with
  | command name body d =>
    obtain rfl := Option.some.inj offer
    simp only [perform, command, addMade]
    cases r.add (.command (Command.declare name body d).1) <;> rfl
  | multiCommand name body d =>
    cases declared : MultiCommand.declare name body d with
    | error fault => simp [Call.offer?, declared] at offer
    | ok made =>
      obtain rfl : Entry.multi made.1 = e := by simpa [Call.offer?, declared] using offer
      simp only [perform, multiCommand, declared, Except.map, addMade]
      cases r.add (.multi made.1) <;> rfl
  | add e => rw [← Option.some.inj offer, perform]
  | validateAll => cases offer

theorem declare_multi_refused {name : String} {body : Body} {d : Declaration}
    (none : d.modifiers = []) : MultiCommand.declare name body d = .error (.noModifiers name) := by
  simp [MultiCommand.declare, none]

theorem declare_multi_made (name : String) (body : Body) {d : Declaration}
    (some : d.modifiers ≠ []) : ∃ made, MultiCommand.declare name body d = .ok made := by
  simp [MultiCommand.declare, some]

/-- A command with modifiers has its own arguments after those of its declaration and its bundles. -/
theorem declare_multi_verb {name : String} {body : Body} {d : Declaration}
    {made : MultiCommand × List String} (declared : MultiCommand.declare name body d = .ok made) :
    made.1.modifiers = d.modifiers ∧
      made.1.command.verb = (((Bundle.completeAll (.ofDeclaration name d) d.bundles).1.complete
        { epilogue := some (MultiCommand.variations name d.modifiers).render }).addArguments
          [MultiCommand.selectorArgument d.modifiers]).addArguments
            (MultiCommand.trailingArguments d.modifiers) := by
  unfold MultiCommand.declare at declared
  split at declared
  · contradiction
  · rw [← Except.ok.inj declared]
    exact ⟨rfl, rfl⟩

theorem perform_multi_refused {name : String} {body : Body} {d : Declaration}
    (none : d.modifiers = []) :
    r.perform (.multiCommand name body d) = (r, .error (.noModifiers name)) := by
  simp only [perform, multiCommand, declare_multi_refused none, Except.map, addMade]

theorem offer?_eq_none : call.offer? = none ↔
    call = .validateAll ∨ ∃ name body d, call = .multiCommand name body d ∧ d.modifiers = [] := by
  cases call with
  | multiCommand name body d =>
    by_cases none : d.modifiers = []
    · simp [Call.offer?, declare_multi_refused none, none]
    · obtain ⟨made, declared⟩ := declare_multi_made name body none
      simp [Call.offer?, declared, none]
  | _ => simp [Call.offer?]

theorem Holds.mem_order (holds : Holds r offers) (name : String) :
    name ∈ r.order ↔ name ∈ offers.map Entry.name := by
  rw [holds.order, List.mem_eraseDups]

theorem Holds.add_taken (holds : Holds r offers) (taken : e.name ∈ r.order) :
    r.add e = .error (.duplicateVerb e.name) :=
  if_pos ((holds.known e.name).mpr taken)

theorem Holds.add_new (holds : Holds r offers) (new : e.name ∉ r.order) :
    r.add e = .ok { verbs := r.verbs.insert e.name e, order := r.order ++ [e.name] } :=
  if_neg (mt (holds.known e.name).mp new)

theorem eraseDups_append_single (names : List String) (name : String) :
    (names ++ [name]).eraseDups =
      names.eraseDups ++ (if name ∈ names then [] else [name]) := by
  rw [List.eraseDups_append]
  by_cases known : name ∈ names <;> simp [known, List.removeAll, List.eraseDups_cons]

/-- An offer whose name is taken changes nothing. -/
theorem Holds.offer_taken (holds : Holds r offers) (taken : e.name ∈ r.order) :
    Holds r (offers ++ [e]) where
  order := by
    have known := (holds.mem_order e.name).mp taken
    rw [List.map_append, List.map_singleton, eraseDups_append_single, if_pos known,
      List.append_nil, holds.order]
  nodup := holds.nodup
  known := holds.known
  first name e found := by
    obtain ⟨first, known, keeps⟩ := holds.first name e found
    exact ⟨first, by rw [List.find?_append, known, Option.some_or], keeps⟩

theorem Holds.offer_new (holds : Holds r offers) (new : e.name ∉ r.order) :
    Holds { verbs := r.verbs.insert e.name e, order := r.order ++ [e.name] } (offers ++ [e]) where
  order := by
    have absent := mt (holds.mem_order e.name).mpr new
    rw [List.map_append, List.map_singleton, eraseDups_append_single, if_neg absent, holds.order]
  nodup := List.nodup_append.mpr ⟨holds.nodup, by simp, by grind⟩
  known name := by
    by_cases same : name = e.name
    · simp [get?, same, KeyMap.get?_insert_same]
    · have known := holds.known name
      rw [get?] at known
      simp [get?, KeyMap.get?_insert_other _ _ same, same, known]
  first name f found := by
    by_cases same : name = e.name
    · subst same
      rw [get?, KeyMap.get?_insert_same] at found
      have absent : offers.find? (·.name == e.name) = none := by
        refine List.find?_eq_none.mpr fun other member named => ?_
        exact new ((holds.mem_order _).mpr (List.mem_map.mpr ⟨other, member, by simpa using named⟩))
      refine ⟨e, ?_, .inl (Option.some.inj found).symm⟩
      rw [List.find?_append, absent, Option.none_or]
      simp
    · rw [get?, KeyMap.get?_insert_other _ _ same] at found
      obtain ⟨first, known, keeps⟩ := holds.first name f found
      exact ⟨first, by rw [List.find?_append, known, Option.some_or], keeps⟩

/-! ## Validation -/

/-- Looking through verbs keeps the map's keys, and what holds of its verbs if a look keeps it. -/
theorem visit_keeps {α : Type} {look : Verb → Verb × Except DeclarationFault α}
    {P : String → Entry → Prop}
    (kept : ∀ name e, P name e → P name (e.withVerb (look e.verb).1)) (names : List String)
    {verbs : KeyMap Entry} (holds : ∀ name e, verbs.get? name = some e → P name e) (name : String) :
    ((visit look verbs names).1.get? name).isSome = (verbs.get? name).isSome ∧
      ∀ e, (visit look verbs names).1.get? name = some e → P name e := by
  induction names generalizing verbs with
  | nil => exact ⟨rfl, holds name⟩
  | cons visited rest ih =>
    cases found : verbs.get? visited with
    | none => simpa only [visit, found] using ih holds
    | some e =>
      have seen : ∀ name f, (verbs.insert visited (e.withVerb (look e.verb).1)).get? name = some f →
          P name f := by
        intro name f known
        by_cases same : name = visited
        · subst same
          rw [KeyMap.get?_insert_same] at known
          exact Option.some.inj known ▸ kept name e (holds name e found)
        · rw [KeyMap.get?_insert_other _ _ same] at known
          exact holds name f known
      have keys : ((verbs.insert visited (e.withVerb (look e.verb).1)).get? name).isSome =
          (verbs.get? name).isSome := by
        by_cases same : name = visited
        · simp [same, KeyMap.get?_insert_same, found]
        · rw [KeyMap.get?_insert_other _ _ same]
      cases looked : look e.verb with
      | mk verb result =>
      rw [looked] at seen keys
      cases result with
      | error fault => simpa only [visit, found, looked] using ⟨keys, seen name⟩
      | ok value =>
        obtain ⟨later, kept⟩ := ih seen
        simpa only [visit, found, looked] using ⟨later.trans keys, kept⟩

theorem Holds.validateAll (holds : Holds r offers) : Holds r.validateAll.1 offers := by
  have keeps : ∀ name e,
      (∃ first, offers.find? (·.name == name) = some first ∧ first.Keeps e) →
      ∃ first, offers.find? (·.name == name) = some first ∧
        first.Keeps (e.withVerb e.verb.validate.1) :=
    fun name e ⟨first, known, keeps⟩ => ⟨first, known, keeps.validated⟩
  have visited := visit_keeps keeps r.order holds.first
  exact ⟨holds.order, holds.nodup, fun name => (visited name).1 ▸ holds.known name,
    fun name => (visited name).2⟩

/-! ## Sequences of calls -/

theorem Holds.perform (holds : Holds r offers) (call : Call) :
    Holds (r.perform call).1 (offers ++ call.offer?.toList) := by
  cases offer : call.offer? with
  | some e =>
    rw [perform_offer offer]
    by_cases taken : e.name ∈ r.order
    · rw [holds.add_taken taken]
      exact holds.offer_taken taken
    · rw [holds.add_new taken]
      exact holds.offer_new taken
  | none =>
    rw [Option.toList_none, List.append_nil]
    rcases offer?_eq_none.mp offer with rfl | ⟨name, body, d, rfl, none⟩
    · exact holds.validateAll
    · rwa [perform_multi_refused none]

theorem Holds.after (holds : Holds r offers) (calls : List Call) :
    Holds (r.after calls) (offers ++ offered calls) := by
  induction calls generalizing r offers with
  | nil => simpa [Registry.after, offered] using holds
  | cons call rest ih =>
    have later := ih (holds.perform call)
    rw [List.append_assoc] at later
    cases offer : call.offer? <;> simpa [Registry.after, offered, offer] using later

end Registry

end CommandVerbs
