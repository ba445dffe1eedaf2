import CommandVerbs.Proofs.CommandLine.Building
import CommandVerbs.Proofs.Verb.MatchedValues

/-! Verbs whose options and arguments share names. Options have destinations of their own; arguments are
taken under any names and checked by their counts alone. Under a shared name an invocation has the value
of the last argument that has one, else the value of the option. -/
namespace CommandVerbs.Verb

/-- How verbs come about: by themselves or from declarations, completed by bundles, and by operations. -/
inductive Built : Verb → Prop
  | bare (name : String) : Built { name }
  | command {name : String} {body : Body} {d : Declaration} (operate : ∀ b ∈ d.bundles, b.Operates) :
      Built (Command.declare name body d).1.verb
  | multi {name : String} {body : Body} {d : Declaration} {made : MultiCommand × List String}
      (operate : ∀ b ∈ d.bundles, b.Operates) (declared : MultiCommand.declare name body d = .ok made) :
      Built made.1.command.verb
  | after {v : Verb} (built : Built v) (ops : List Operation) : Built (v.after ops)

variable {v : Verb} {m : Matches} {seen : Invocation}

theorem Built.sound (built : Built v) : Sound v := by
  induction built with
  | bare name => exact Sound.initial name
  | command operate =>
    exact (Sound.ofDeclaration _ _).completeAll fun b member => (operate b member).keepsSound
  | multi operate declared =>
    exact Registry.declare_multi_sound declared fun b member => (operate b member).keepsSound
  | after _ ops ih => exact ih.after ops

/-! ## Checking does not look at names -/

/-- The verb with its arguments under other names. -/
def renamed (v : Verb) (name : ArgumentSpec → String) : Verb :=
  { v with arguments := v.arguments.map fun a => { a with name := name a } }

theorem acceptable_renamed (name : ArgumentSpec → String) (arguments : List ArgumentSpec) :
    Acceptable (arguments.map fun a => { a with name := name a }) ↔ Acceptable arguments := by
  induction arguments with
  | nil => exact Iff.rfl
  | cons a rest ih =>
    rw [List.map_cons, acceptable_cons, acceptable_cons, ih, List.isEmpty_map]
    refine and_congr_left' (forall_congr' fun rule => ?_)
    cases rule <;> exact Iff.rfl

theorem Sound.renamed (sound : Sound v) (name : ArgumentSpec → String) : Sound (v.renamed name) where
  distinct := sound.distinct
  listed := sound.listed
  checked done := by
    have checked := firstMistake?_eq_none.mp (sound.checked done)
    exact firstMistake?_eq_none.mpr ((acceptable_renamed name _).mpr checked)

theorem Sound.validate_eq_ok (sound : Sound v) : v.validate.2 = .ok () ↔ Acceptable v.arguments := by
  have refused := sound.refusal?_validate
  constructor
  · intro passed
    rw [passed, refusal?_ok] at refused
    exact firstMistake?_eq_none.mp refused.symm
  · intro acceptable
    rw [firstMistake?_eq_none.mpr acceptable, refusal?_eq_none] at refused
    exact refused.choose_spec

theorem Sound.validate_renamed (sound : Sound v) (name : ArgumentSpec → String) :
    (v.renamed name).validate.2 = .ok () ↔ v.validate.2 = .ok () := by
  rw [(sound.renamed name).validate_eq_ok, sound.validate_eq_ok]
  exact acceptable_renamed name v.arguments

/-! ## What stands under a name -/

/-- The arguments by name with the values that the verb has for them: those supplied for the leading
ones, else what is given. -/
def argumentValues (v : Verb) (m : Matches) : List (String × Option Value) :=
  v.arguments.mapIdx fun i a => (a.name, (v.supplied[i]?.map Value.text).or (m.argumentOf? a))

/-- The value of the last argument of a name that has one. -/
def lastArgument? (v : Verb) (m : Matches) (name : String) : Option Value :=
  (v.argumentValues m).reverse.findSome? fun a => if a.1 = name then a.2 else none

theorem argumentEntries_eq (arguments : List ArgumentSpec) (supplied : List String) :
    Matches.suppliedEntries arguments supplied ++
        (arguments.drop supplied.length).filterMap m.argumentPair? =
      (arguments.mapIdx fun i a =>
        (a.name, (supplied[i]?.map Value.text).or (m.argumentOf? a))).filterMap
          fun a => a.2.map (a.1, ·) := by
  induction arguments generalizing supplied with
  | nil => simp [Matches.suppliedEntries]
  | cons a rest ih =>
    cases supplied with
    | nil =>
      have later := ih []
      simp only [Matches.suppliedEntries, List.zip_nil_right, List.map_nil, List.length_nil,
        List.drop_zero, List.nil_append, List.getElem?_nil, Option.map_none, Option.none_or] at later ⊢
      rw [List.filterMap_cons, List.mapIdx_cons, List.filterMap_cons, later]
      rfl
    | cons text texts =>
      have later := ih texts
      rw [List.mapIdx_cons, List.filterMap_cons]
      simp only [Matches.suppliedEntries, List.zip_cons_cons, List.map_cons, List.length_cons,
        List.drop_succ_cons, List.cons_append, List.getElem?_cons_zero, List.getElem?_cons_succ,
        Option.map_some, Option.some_or] at later ⊢
      rw [later]

theorem lastArgument?_eq (v : Verb) (m : Matches) (name : String) :
    v.lastArgument? m name =
      (KeyMap.ofList (Matches.suppliedEntries v.arguments v.supplied ++
        (v.arguments.drop v.supplied.length).filterMap m.argumentPair?)).get? name := by
  rw [argumentEntries_eq, KeyMap.get?_ofList_last, ← List.filterMap_reverse, ← List.head?_filterMap,
    List.filterMap_filterMap, List.head?_filterMap, lastArgument?, argumentValues]
  congr 1
  funext a
  cases a.2 <;> simp

/-- The value that is seen under a name is that of the last argument of the name, else the option's. -/
theorem seen_iff (sound : Sound v) (read : (v.invocation m).2 = .ok seen) {name : String}
    {value : Value} :
    seen.values.get? name = some value ↔ v.lastArgument? m name = some value ∨
      v.lastArgument? m name = none ∧ ∃ o ∈ v.options, o.dest = name ∧ m.Gives o value := by
  have own : ((v.reviewOptions.options.filterMap m.optionPair?).map (·.1)).Nodup :=
    (sound.distinct.perm (reviewOptions_perm v).symm).sublist (v.optionEntries_keys m)
  rw [(values_of_invocation read).2, entries, List.append_assoc, KeyMap.get?_ofList_last,
    List.reverse_append, List.findSome?_append, ← KeyMap.get?_ofList_last,
    ← KeyMap.get?_ofList_last, ← lastArgument?_eq, Option.or_eq_some_iff, KeyMap.get?_ofList own,
    mem_optionEntries]

/-- The options of a verb have destinations of their own. Its arguments may have the names of others or
of options, which validation does not look at. What an invocation sees under a name is then the value of
the last argument of this name that has one, else that of the option; where all names are distinct, it
sees every value. -/
theorem arguments_alone_overwrite (built : Built v) :
    (v.options.map (·.dest)).Nodup ∧
    (∀ name, (v.renamed name).validate.2 = .ok () ↔ v.validate.2 = .ok ()) ∧
    ∀ m seen, (v.invocation m).2 = .ok seen →
      (∀ name value, seen.values.get? name = some value ↔ v.lastArgument? m name = some value ∨
        v.lastArgument? m name = none ∧ ∃ o ∈ v.options, o.dest = name ∧ m.Gives o value) ∧
      ((v.options.map (·.dest) ++ v.arguments.map (·.name)).Nodup →
        ∀ name value, v.Provides m name value → seen.values.get? name = some value) := by
  refine ⟨built.sound.distinct, built.sound.validate_renamed, fun m seen read => ⟨?_, ?_⟩⟩
  · exact fun name value => seen_iff built.sound read
  · intro distinct name value provides
    rw [(values_of_invocation read).2, KeyMap.get?_ofList (entries_distinct distinct m), mem_entries_iff]
    exact provides

/-- A declaration whose option and argument have the same name. -/
def shadowing (bundles : List Bundle) : Declaration where
  options := [.declare (some 'f') (some "--file") "file" (some "") .text none]
  arguments := [{ name := "file", help := "" }]
  supplied := ["given"]
  bundles

theorem arguments_alone_overwrite_shadowing :
    let c : ClientConnection := { port := clientPort }
    let v := (Command.declare "copy" (fun context => context.go) (shadowing [c.bundle])).1.verb
    let m : Matches := { texts := .ofList [("file", ["x"])] }
    v.Built ∧ (v.options.map (·.dest)).Nodup ∧ ∃ seen, (v.invocation m).2 = .ok seen ∧
      seen.values.get? "file" = some (.text "given") ∧
      seen.values.get? "host" = some (.hosts [⟨"localhost", some 21212⟩]) := by
  intro c v m
  have built : v.Built := .command (by simp [shadowing, (Bundle.Stock.client c).operates])
  obtain ⟨distinct, -, sees⟩ := arguments_alone_overwrite built
  have parsed : HostAddress.parseList "host" "localhost" 1 1 (some 21212) =
      .ok [⟨"localhost", some 21212⟩] := by decide +kernel
  have accepted : ∀ o ∈ v.options, (m.valueOf? o).isOk := by decide +kernel
  obtain ⟨seen, read⟩ := exists_invocation.mpr ⟨accepted, fun _ => rfl⟩
  obtain ⟨stands, -⟩ := sees m seen read
  refine ⟨built, distinct, seen, read, (stands _ _).mpr (.inl rfl), (stands _ _).mpr (.inr ?_)⟩
  exact ⟨rfl, v.options[1], List.getElem_mem _, rfl, .hosts rfl (.inr ⟨rfl, rfl⟩) parsed⟩

/-- A verb that passes validation has an option and an argument of one name, and the value that is given
for the option is overwritten. -/
theorem option_overwritten :
    let v := (Command.declare "copy" (fun context => context.go) (shadowing [])).1.verb
    let m : Matches := { texts := .ofList [("file", ["x"])] }
    v.validate.2 = .ok () ∧ ¬(v.options.map (·.dest) ++ v.arguments.map (·.name)).Nodup ∧
      (∀ o ∈ v.options, m.Gives o (.text "x")) ∧
      (v.invocation m).2.toOption.map (·.values.toList) = some [("file", .text "given")] := by
  refine ⟨rfl, by decide, ?_, by decide +kernel⟩
  exact List.forall_mem_singleton.mpr (.text rfl rfl)

end CommandVerbs.Verb
