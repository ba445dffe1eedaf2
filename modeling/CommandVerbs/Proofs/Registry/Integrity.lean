import CommandVerbs.Proofs.Bundle.Completing
import CommandVerbs.Proofs.Registry.Calls
import CommandVerbs.Proofs.Verb.Checking

/-! The answers of a registry after any calls: its names, look-ups and listings agree with one
another and with what was offered, and a refused call leaves them as they are. -/
namespace CommandVerbs.Registry

variable {r : Registry} {offers : List Entry} {call : Call} {e : Entry}

/-! ## Listings -/

theorem Holds.keys_perm (holds : Holds r offers) : r.verbs.keys.Perm r.order :=
  (List.perm_ext_iff_of_nodup r.verbs.keys_nodup holds.nodup).mpr fun name =>
    KeyMap.mem_keys_iff.trans (holds.known name)

theorem Holds.size_eq (holds : Holds r offers) : r.size = r.order.length := by
  rw [← holds.keys_perm.length_eq, KeyMap.keys, List.length_map]
  rfl

theorem Holds.alike (holds : Holds r offers) {name : String} (found : r.get? name = some e) :
    ∃ first, offers.find? (·.name == name) = some first ∧ (e = first ∨ e = first.validated) ∧
      Verb.Alike e.verb first.verb := by
  obtain ⟨first, known, keeps⟩ := holds.first name e found
  refine ⟨first, known, keeps, ?_⟩
  rcases keeps with rfl | rfl
  · exact .refl _
  · rw [Entry.validated, Entry.withVerb_verb]
    exact Verb.validate_alike first.verb

/-- Each verb is found under its own name. -/
theorem Holds.named (holds : Holds r offers) {name : String} (found : r.get? name = some e) :
    e.name = name := by
  obtain ⟨first, known, _, alike⟩ := holds.alike found
  have same : first.name = name := by simpa using List.find?_some known
  exact alike.name.trans same

theorem filterMap_get? {names : List String} (known : ∀ name ∈ names, (r.get? name).isSome) :
    (names.filterMap r.get?).map some = names.map r.get? := by
  induction names with
  | nil => rfl
  | cons name rest ih =>
    obtain ⟨here, known⟩ := List.forall_mem_cons.mp known
    obtain ⟨e, found⟩ := Option.isSome_iff_exists.mp here
    simp [found, ih known]

theorem Holds.entries_eq (holds : Holds r offers) : r.entries.map some = r.order.map r.get? :=
  filterMap_get? fun name member => (holds.known name).mpr member

theorem Holds.entries_named (holds : Holds r offers) : r.entries.map Entry.name = r.order := by
  have named : r.order.map (fun name => (r.get? name).map Entry.name) = r.order.map some := by
    refine List.map_congr_left fun name member => ?_
    obtain ⟨e, found⟩ := Option.isSome_iff_exists.mp ((holds.known name).mpr member)
    rw [found, Option.map_some, holds.named found]
  have listed := congrArg (List.map (Option.map Entry.name)) holds.entries_eq
  rw [List.map_map, List.map_map] at listed
  refine List.map_injective_iff.mpr (fun _ _ => Option.some.inj) ?_
  rw [List.map_map]
  exact listed.trans named

theorem Holds.sorted (holds : Holds r offers) :
    r.sortedNames.Perm r.order ∧ r.sortedNames.Pairwise (· < ·) := by
  have perm : r.sortedNames.Perm r.order := List.mergeSort_perm _ _
  have ordered : r.sortedNames.Pairwise fun a b => !decide (b < a) := by
    refine List.pairwise_mergeSort (fun a b c first second => ?_) (fun a b => ?_) r.order
    · simp only [Bool.not_eq_true', decide_eq_false_iff_not, String.not_lt] at *
      exact String.le_trans first second
    · simp only [Bool.or_eq_true, Bool.not_eq_true', decide_eq_false_iff_not, String.not_lt]
      exact String.le_total a b
  refine ⟨perm, (ordered.and (perm.nodup_iff.mpr holds.nodup)).imp fun {a b} both => ?_⟩
  have least : a ≤ b := by
    simpa only [Bool.not_eq_true', decide_eq_false_iff_not, String.not_lt] using both.1
  exact String.not_le.mp fun greater => both.2 (String.le_antisymm least greater)

/-! ## Names of calls -/

/-- The bundle does not rename the verbs that it completes. -/
def KeepsName (b : Bundle) : Prop :=
  b.hooks.complete → ∀ v, (b.complete v).1.name = v.name

theorem completeAll_name {bundles : List Bundle} (keep : ∀ b ∈ bundles, KeepsName b) (v : Verb) :
    (Bundle.completeAll v bundles).1.name = v.name := by
  induction bundles generalizing v with
  | nil => rfl
  | cons b rest ih =>
    obtain ⟨here, keep⟩ := List.forall_mem_cons.mp keep
    by_cases taken : b.hooks.complete
    · rw [Bundle.completeAll_cons taken, ih keep, here taken]
    · rw [Bundle.completeAll_cons_none taken, ih keep]

theorem addArguments_name (v : Verb) (arguments : List ArgumentSpec) :
    (v.addArguments arguments).name = v.name := by
  unfold Verb.addArguments
  split <;> rfl

theorem declare_name {d : Declaration} (keep : ∀ b ∈ d.bundles, KeepsName b) (name : String)
    (body : Body) : (Command.declare name body d).1.verb.name = name := by
  refine (completeAll_name keep _).trans ?_
  rw [Verb.ofDeclaration, addArguments_name]
  exact (Verb.addOptions_frame _ _).1

theorem declare_multi_name {name : String} {body : Body} {d : Declaration}
    {made : MultiCommand × List String} (keep : ∀ b ∈ d.bundles, KeepsName b)
    (declared : MultiCommand.declare name body d = .ok made) : made.1.command.verb.name = name := by
  unfold MultiCommand.declare at declared
  split at declared
  · contradiction
  · rw [← Except.ok.inj declared]
    simp only [addArguments_name]
    exact declare_name keep name body

theorem offer_name {name : String} {body : Body} {d : Declaration}
    (keep : ∀ b ∈ d.bundles, KeepsName b)
    (called : call = .command name body d ∨ call = .multiCommand name body d)
    (offer : call.offer? = some e) : e.name = name := by
  rcases called with rfl | rfl
  · rw [← Option.some.inj offer]
    exact declare_name keep name body
  · cases declared : MultiCommand.declare name body d with
    | error fault => simp [Call.offer?, declared] at offer
    | ok made =>
      obtain rfl : Entry.multi made.1 = e := by simpa [Call.offer?, declared] using offer
      exact declare_multi_name keep declared

/-- After any calls the registry lists, without repetition, the names under which verbs were
offered, and finds under each of them the verb that was offered first, apart from the reviews
that validation carries out. The verbs are listed in the order of the names, and the sorted names are
the same ones in ascending order. A call is refused if it declares a command with modifiers and
gives none, or if the name of the verb that it offers is taken, and then changes nothing; any other
verb is registered. A declared verb has the name of its declaration unless a bundle renames it. -/
theorem registers_first_offered (calls : List Call) :
    ∃ r, after {} calls = r ∧
      (r.names = ((offered calls).map Entry.name).eraseDups ∧ r.names.Nodup) ∧
      (∀ name, (r.get? name).isSome ↔ name ∈ r.names) ∧
      (∀ name e, r.get? name = some e →
        ∃ first, (offered calls).find? (·.name == name) = some first ∧
          (e = first ∨ e = first.validated) ∧ Verb.Alike e.verb first.verb) ∧
      (r.entries.map some = r.names.map r.get? ∧ r.entries.map Entry.name = r.names) ∧
      r.size = r.names.length ∧
      (r.sortedNames.Perm r.names ∧ r.sortedNames.Pairwise (· < ·)) ∧
      (∀ call : Call, call.offer? = none ↔ call = .validateAll ∨
        ∃ name body d, call = .multiCommand name body d ∧ d.modifiers = []) ∧
      (∀ name body d, d.modifiers = [] →
        r.perform (.multiCommand name body d) = (r, .error (.noModifiers name))) ∧
      (∀ call e, call.offer? = some e → e.name ∈ r.names →
        r.perform call = (r, .error (.duplicateVerb e.name))) ∧
      (∀ call e, call.offer? = some e → e.name ∉ r.names →
        (r.perform call).2 = .ok () ∧ (r.perform call).1.names = r.names ++ [e.name] ∧
          (r.perform call).1.get? e.name = some e) ∧
      ∀ (name : String) (body : Body) (d : Declaration) (call : Call) (e : Entry),
        (∀ b ∈ d.bundles, KeepsName b) →
        (call = .command name body d ∨ call = .multiCommand name body d) →
        call.offer? = some e → e.name = name := by
  have holds := Holds.empty.after calls
  rw [List.nil_append] at holds
  refine ⟨_, rfl, ⟨holds.order, holds.nodup⟩, holds.known, fun name e => holds.alike,
    ⟨holds.entries_eq, holds.entries_named⟩, holds.size_eq, holds.sorted,
    fun call => offer?_eq_none, fun name body d => perform_multi_refused, ?_, ?_,
    fun name body d call e => offer_name⟩
  · intro call e offer taken
    rw [perform_offer offer, holds.add_taken taken]
  · intro call e offer new
    rw [perform_offer offer, holds.add_new new]
    exact ⟨rfl, rfl, KeyMap.get?_insert_same _ _ _⟩

end CommandVerbs.Registry
