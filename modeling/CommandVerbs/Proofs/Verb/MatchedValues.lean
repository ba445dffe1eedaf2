import CommandVerbs.Proofs.Spec.OptionOrder
import CommandVerbs.Proofs.Verb.Operations
import CommandVerbs.Proofs.Verb.SuppliedValues

/-! What a verb sees of matches. Options, supplied values and open arguments are written into one map;
where their names are distinct, the map has exactly what each of them gives. Only the addresses of an
option can be refused. -/
namespace CommandVerbs

namespace Matches

/-- The text by which the addresses of an option are known: the one given, else a default text. -/
def HostText (m : Matches) (o : OptionSpec) (text : String) : Prop :=
  m.text? o.dest = some text ∨ m.text? o.dest = none ∧ o.default = some (.text text)

/-- The text of an option is no list of as many addresses as the option takes. -/
def Refused (m : Matches) (o : OptionSpec) (refusal : OptionFault) : Prop :=
  ∃ min max defaultPort text, o.kind = .hosts min max defaultPort ∧ m.HostText o text ∧
    HostAddress.parseList o.dest text min max defaultPort = .error refusal

/-- The value of an option: what is given, else the default. -/
inductive Gives (m : Matches) (o : OptionSpec) : Value → Prop
  | flag : o.kind = .flag →
      Gives m o (.flag (decide (o.dest ∈ m.raised ∨ o.default = some (.flag true))))
  | integer {n : Int} : o.kind = .integer → m.integers.get? o.dest = some n → Gives m o (.integer n)
  | integerDefault {value : Value} : o.kind = .integer → m.integers.get? o.dest = none →
      o.default = some value → Gives m o value
  | text {s : String} : o.kind = .text → m.text? o.dest = some s → Gives m o (.text s)
  | textDefault {value : Value} : o.kind = .text → m.text? o.dest = none → o.default = some value →
      Gives m o value
  | hosts {min max : Nat} {defaultPort : Option UInt16} {text : String}
      {addresses : List HostAddress} : o.kind = .hosts min max defaultPort → m.HostText o text →
      HostAddress.parseList o.dest text min max defaultPort = .ok addresses →
      Gives m o (.hosts addresses)

variable {m : Matches} {o : OptionSpec} {value : Value} {refusal : OptionFault}
  {options : List OptionSpec} {arguments : List ArgumentSpec} {supplied : List String}

theorem hostText_iff {text : String} :
    m.HostText o text ↔ (m.text? o.dest).or (defaultText? o) = some text := by
  have default : defaultText? o = some text ↔ o.default = some (.text text) := by
    unfold defaultText?
    split <;> simp_all
  rw [HostText, Option.or_eq_some_iff, default]

theorem valueOf?_eq_error : m.valueOf? o = .error refusal ↔ m.Refused o refusal := by
  unfold valueOf?
  cases kind : o.kind with
  | flag => simp [Refused, kind]
  | integer => simp [Refused, kind]
  | text => simp [Refused, kind]
  | hosts min max port =>
    simp only [Refused, kind, OptionKind.hosts.injEq, hostText_iff]
    cases known : (m.text? o.dest).or (defaultText? o) with
    | none => simp
    | some text =>
      cases read : HostAddress.parseList o.dest text min max port with
      | error fault => simp [Except.map, read]
      | ok addresses => simp [Except.map, read]

theorem flag_iff : (m.raised.contains o.dest || o.default == some (.flag true)) =
    decide (o.dest ∈ m.raised ∨ o.default = some (.flag true)) := by
  rw [Bool.eq_iff_iff]
  simp

theorem valueOf?_eq_ok : m.valueOf? o = .ok (some value) ↔ m.Gives o value := by
  constructor
  · intro found
    unfold valueOf? at found
    cases kind : o.kind with
    | flag =>
      simp only [kind, flag_iff] at found
      exact Option.some.inj (Except.ok.inj found) ▸ .flag kind
    | integer =>
      simp only [kind] at found
      rcases Option.or_eq_some_iff.mp (Except.ok.inj found) with given | ⟨absent, default⟩
      · obtain ⟨n, held, rfl⟩ := Option.map_eq_some_iff.mp given
        exact .integer kind held
      · exact .integerDefault kind (Option.map_eq_none_iff.mp absent) default
    | text =>
      simp only [kind] at found
      rcases Option.or_eq_some_iff.mp (Except.ok.inj found) with given | ⟨absent, default⟩
      · obtain ⟨s, held, rfl⟩ := Option.map_eq_some_iff.mp given
        exact .text kind held
      · exact .textDefault kind (Option.map_eq_none_iff.mp absent) default
    | hosts min max port =>
      simp only [kind] at found
      cases known : (m.text? o.dest).or (defaultText? o) with
      | none => simp [known] at found
      | some text =>
        cases read : HostAddress.parseList o.dest text min max port with
        | error fault => simp [known, read, Except.map] at found
        | ok addresses =>
          simp only [known, read, Except.map, Except.ok.injEq, Option.some.injEq] at found
          exact found ▸ .hosts kind (hostText_iff.mpr known) read
  · intro gives
    unfold valueOf?
    cases gives with
    | flag kind => simp only [kind, flag_iff]
    | integer kind given => simp [kind, given]
    | integerDefault kind absent default => simp [kind, absent, default]
    | text kind given => simp [kind, given]
    | textDefault kind absent default => simp [kind, absent, default]
    | hosts kind known read => simp [kind, hostText_iff.mp known, read, Except.map]

/-! ## The loops as pairs that are put into the map -/

/-- The pair that an option adds. -/
def optionPair? (m : Matches) (o : OptionSpec) : Option (String × Value) :=
  match m.valueOf? o with
  | .ok (some value) => some (o.dest, value)
  | _ => none

/-- The pairs that supplied values add. -/
def suppliedEntries (arguments : List ArgumentSpec) (supplied : List String) :
    List (String × Value) :=
  (arguments.zip supplied).map fun (a, text) => (a.name, .text text)

/-- The pair that an open argument adds. -/
def argumentPair? (m : Matches) (a : ArgumentSpec) : Option (String × Value) :=
  (m.argumentOf? a).map (a.name, ·)

/-- Options add their pairs, or one of them is refused and none before it. -/
theorem addOptions_ofList (m : Matches) (options : List OptionSpec)
    (entries : List (String × Value)) :
    (∃ before o after refusal, options = before ++ o :: after ∧
      (∀ p ∈ before, ∀ refusal, ¬m.Refused p refusal) ∧ m.Refused o refusal ∧
      m.addOptions options (.ofList entries) = .error refusal) ∨
    (∀ o ∈ options, ∀ refusal, ¬m.Refused o refusal) ∧
      m.addOptions options (.ofList entries) =
        .ok (.ofList (entries ++ options.filterMap m.optionPair?)) := by
  -- over the options that are left, for any pairs that earlier ones have put
  induction options generalizing entries with
  | nil => exact .inr ⟨by simp, by simp [addOptions]⟩
  | cons o rest ih =>
    cases taken : m.valueOf? o with
    | error refusal =>
      refine .inl ⟨[], o, rest, refusal, rfl, by simp, valueOf?_eq_error.mp taken, ?_⟩
      simp only [addOptions, taken]
    | ok value? =>
      have accepted : ∀ refusal, ¬m.Refused o refusal := fun refusal refused => by
        simp [valueOf?_eq_error.mpr refused] at taken
      have step : m.addOptions (o :: rest) (.ofList entries) =
          m.addOptions rest (.ofList (entries ++ (m.optionPair? o).toList)) := by
        cases value? with
        | none => simp [addOptions, optionPair?, taken]
        | some value => simp [addOptions, optionPair?, taken, KeyMap.ofList_append_single]
      rw [step]
      rcases ih (entries ++ (m.optionPair? o).toList) with
        ⟨before, p, after, refusal, rfl, earlier, refused, failed⟩ | ⟨later, added⟩
      · exact .inl ⟨o :: before, p, after, refusal, rfl,
          List.forall_mem_cons.mpr ⟨accepted, earlier⟩, refused, failed⟩
      · have own : (o :: rest).filterMap m.optionPair? =
            (m.optionPair? o).toList ++ rest.filterMap m.optionPair? := by
          rw [List.filterMap_cons]
          cases m.optionPair? o <;> rfl
        refine .inr ⟨List.forall_mem_cons.mpr ⟨accepted, later⟩, ?_⟩
        rw [added, own, List.append_assoc]

theorem addSupplied_ofList (entries : List (String × Value)) :
    addSupplied arguments supplied (.ofList entries) =
      .ofList (entries ++ suppliedEntries arguments supplied) := by
  rw [KeyMap.ofList_append, suppliedEntries, List.foldl_map, addSupplied]

theorem addArguments_ofList (entries : List (String × Value)) :
    m.addArguments arguments (.ofList entries) =
      .ofList (entries ++ arguments.filterMap m.argumentPair?) := by
  induction arguments generalizing entries with
  | nil => simp [addArguments]
  | cons a rest ih =>
    rw [addArguments, List.foldl_cons, List.filterMap_cons, argumentPair?]
    cases m.argumentOf? a with
    | none => exact ih entries
    | some value =>
      have added := ih (entries ++ [(a.name, value)])
      rw [KeyMap.ofList_append_single, List.append_assoc] at added
      exact added

/-! ## Where the pairs come from -/

theorem optionPair?_eq_some {key : String} :
    m.optionPair? o = some (key, value) ↔ o.dest = key ∧ m.Gives o value := by
  rw [← valueOf?_eq_ok, optionPair?]
  split
  · simp_all
  · simp_all

theorem argumentOf?_eq_some {a : ArgumentSpec} :
    m.argumentOf? a = some value ↔
      (∃ text rest, a.max = some 1 ∧ m.texts.get? a.name = some (text :: rest) ∧
        value = .text text) ∨
      ∃ texts, a.max ≠ some 1 ∧ m.texts.get? a.name = some texts ∧ value = .list texts := by
  rw [argumentOf?, Option.bind_eq_some_iff]
  by_cases one : a.max = some 1
  · simp only [one, if_true, Option.map_eq_some_iff, List.head?_eq_some_iff]
    grind
  · simp only [one, if_false]
    grind

theorem mem_suppliedEntries {key : String} :
    (key, value) ∈ suppliedEntries arguments supplied ↔
      ∃ (i : Nat) (a : ArgumentSpec) (text : String), arguments[i]? = some a ∧
        supplied[i]? = some text ∧ a.name = key ∧ .text text = value := by
  rw [suppliedEntries, List.mem_map]
  constructor
  · rintro ⟨⟨a, text⟩, member, same⟩
    obtain ⟨i, place⟩ := List.getElem?_of_mem member
    obtain ⟨place, given⟩ := List.getElem?_zip_eq_some.mp place
    obtain ⟨named, valued⟩ := Prod.mk.inj same
    exact ⟨i, a, text, place, given, named, valued⟩
  · rintro ⟨i, a, text, place, given, rfl, rfl⟩
    exact ⟨(a, text), List.mem_of_getElem? (List.getElem?_zip_eq_some.mpr ⟨place, given⟩), rfl⟩

theorem mem_argumentEntries {key : String} {n : Nat} :
    (key, value) ∈ (arguments.drop n).filterMap m.argumentPair? ↔
      ∃ (i : Nat) (a : ArgumentSpec), arguments[i]? = some a ∧ n ≤ i ∧ a.name = key ∧
        m.argumentOf? a = some value := by
  rw [List.mem_filterMap]
  constructor
  · rintro ⟨a, member, found⟩
    obtain ⟨i, place⟩ := List.getElem?_of_mem member
    rw [List.getElem?_drop] at place
    obtain ⟨own, gives, same⟩ := Option.map_eq_some_iff.mp found
    obtain ⟨rfl, rfl⟩ := Prod.mk.inj same
    exact ⟨n + i, a, place, Nat.le_add_right n i, rfl, gives⟩
  · rintro ⟨i, a, place, late, rfl, found⟩
    refine ⟨a, List.mem_of_getElem? (i := i - n) ?_, Option.map_eq_some_iff.mpr ⟨value, found, rfl⟩⟩
    rwa [List.getElem?_drop, Nat.add_sub_cancel' late]

theorem keys_sublist {β : Type} {pair? : β → Option (String × Value)} {key : β → String}
    (own : ∀ b e, pair? b = some e → e.1 = key b) (items : List β) :
    ((items.filterMap pair?).map (·.1)).Sublist (items.map key) := by
  induction items with
  | nil => exact .slnil
  | cons b rest ih =>
    rw [List.filterMap_cons, List.map_cons]
    cases found : pair? b with
    | none => exact ih.cons _
    | some e =>
      rw [← own b e found]
      exact ih.cons_cons _

theorem keys_suppliedEntries (arguments : List ArgumentSpec) (supplied : List String) :
    (suppliedEntries arguments supplied).map (·.1) =
      (arguments.map (·.name)).take supplied.length := by
  induction arguments generalizing supplied with
  | nil => simp [suppliedEntries]
  | cons a rest ih =>
    cases supplied with
    | nil => simp [suppliedEntries]
    | cons text texts => exact congrArg (a.name :: ·) (ih texts)

end Matches

namespace Verb

variable {v : Verb} {m : Matches}

/-- The value that a verb has for a key, and where it comes from. -/
inductive Provides (v : Verb) (m : Matches) : String → Value → Prop
  | option {o : OptionSpec} {value : Value} : o ∈ v.options → m.Gives o value →
      Provides v m o.dest value
  | supplied {i : Nat} {a : ArgumentSpec} {text : String} : v.arguments[i]? = some a →
      v.supplied[i]? = some text → Provides v m a.name (.text text)
  | single {i : Nat} {a : ArgumentSpec} {text : String} {rest : List String} :
      v.arguments[i]? = some a → v.supplied.length ≤ i → a.max = some 1 →
      m.texts.get? a.name = some (text :: rest) → Provides v m a.name (.text text)
  | several {i : Nat} {a : ArgumentSpec} {texts : List String} : v.arguments[i]? = some a →
      v.supplied.length ≤ i → a.max ≠ some 1 → m.texts.get? a.name = some texts →
      Provides v m a.name (.list texts)

/-- All pairs that an invocation puts into its map, in the order in which it does. -/
def entries (v : Verb) (m : Matches) : List (String × Value) :=
  v.reviewOptions.options.filterMap m.optionPair? ++
    Matches.suppliedEntries v.arguments v.supplied ++
    (v.arguments.drop v.supplied.length).filterMap m.argumentPair?

theorem reviewOptions_perm (v : Verb) : v.reviewOptions.options.Perm v.options := by
  unfold reviewOptions
  split
  · exact .refl _
  · exact OptionSpec.sorted_perm _

theorem optionEntries_keys (v : Verb) (m : Matches) :
    ((v.reviewOptions.options.filterMap m.optionPair?).map (·.1)).Sublist
      (v.reviewOptions.options.map (·.dest)) :=
  Matches.keys_sublist (fun _ _ found => (Matches.optionPair?_eq_some.mp found).1.symm) _

theorem mem_optionEntries {key : String} {value : Value} :
    (key, value) ∈ v.reviewOptions.options.filterMap m.optionPair? ↔
      ∃ o ∈ v.options, o.dest = key ∧ m.Gives o value := by
  simp only [List.mem_filterMap, Matches.optionPair?_eq_some, (reviewOptions_perm v).mem_iff]

theorem entries_distinct
    (distinct : (v.options.map (·.dest) ++ v.arguments.map (·.name)).Nodup) (m : Matches) :
    ((v.entries m).map (·.1)).Nodup := by
  have options := v.optionEntries_keys m
  have later : (((v.arguments.drop v.supplied.length).filterMap m.argumentPair?).map (·.1)).Sublist
      ((v.arguments.map (·.name)).drop v.supplied.length) := by
    rw [← List.map_drop]
    refine Matches.keys_sublist (fun a e found => ?_) _
    obtain ⟨value, -, rfl⟩ := Option.map_eq_some_iff.mp found
    rfl
  -- supplied values take the first names and open arguments some of the others
  have arguments := (List.Sublist.refl ((v.arguments.map (·.name)).take v.supplied.length)).append
    later
  rw [List.take_append_drop] at arguments
  have listed : (v.reviewOptions.options.map (·.dest) ++ v.arguments.map (·.name)).Nodup :=
    (((reviewOptions_perm v).map _).append_right _).nodup_iff.mpr distinct
  rw [entries, List.append_assoc, List.map_append, List.map_append, Matches.keys_suppliedEntries]
  exact listed.sublist (options.append arguments)

theorem mem_entries_iff {key : String} {value : Value} :
    (key, value) ∈ v.entries m ↔ v.Provides m key value := by
  rw [entries, List.mem_append, List.mem_append, mem_optionEntries, Matches.mem_suppliedEntries,
    Matches.mem_argumentEntries]
  constructor
  · rintro ((⟨o, member, rfl, gives⟩ | ⟨i, a, text, place, given, rfl, rfl⟩) |
      ⟨i, a, place, late, rfl, found⟩)
    · exact .option member gives
    · exact .supplied place given
    · rcases Matches.argumentOf?_eq_some.mp found with
        ⟨text, rest, one, given, rfl⟩ | ⟨texts, several, given, rfl⟩
      · exact .single place late one given
      · exact .several place late several given
  · intro provides
    cases provides with
    | option member gives => exact .inl (.inl ⟨_, member, rfl, gives⟩)
    | supplied place given => exact .inl (.inr ⟨_, _, _, place, given, rfl, rfl⟩)
    | single place late one given =>
      exact .inr ⟨_, _, place, late, rfl, Matches.argumentOf?_eq_some.mpr (.inl ⟨_, _, one, given, rfl⟩)⟩
    | several place late several given =>
      exact .inr ⟨_, _, place, late, rfl, Matches.argumentOf?_eq_some.mpr (.inr ⟨_, several, given, rfl⟩)⟩

theorem seeing_entries (v : Verb) (m : Matches) :
    v.seeing m (.ofList (v.reviewOptions.options.filterMap m.optionPair?)) =
      { verb := v.name
        values := .ofList (v.entries m)
        passed := if v.attributes.passthrough then m.passed else [] } := by
  rw [seeing, Matches.addSupplied_ofList, Matches.addArguments_ofList, entries]

/-- An invocation that is not refused refuses no option, and sees what is left of the pairs that it
puts into its map. -/
theorem values_of_invocation {seen : Invocation} (read : (v.invocation m).2 = .ok seen) :
    (∀ o ∈ v.options, ∀ refusal, ¬m.Refused o refusal) ∧ seen.values = .ofList (v.entries m) := by
  obtain ⟨⟨values, added, rfl⟩, -⟩ := invocation_eq_ok.mp read
  rcases Matches.addOptions_ofList m v.reviewOptions.options [] with
    ⟨-, -, -, refusal, -, -, -, refused⟩ | ⟨accepted, taken⟩
  · exact absurd (added.symm.trans refused) (by simp)
  · obtain rfl := Except.ok.inj (added.symm.trans taken)
    refine ⟨fun o member => accepted o ((reviewOptions_perm v).mem_iff.mpr member), ?_⟩
    rw [List.nil_append, seeing_entries]

theorem exists_invocation : (∃ seen, (v.invocation m).2 = .ok seen) ↔
    (∀ o ∈ v.options, (m.valueOf? o).isOk) ∧
      (v.argumentsReview = .due → firstMistake? v.name v.arguments = none) := by
  constructor
  · rintro ⟨seen, read⟩
    refine ⟨fun o member => ?_, (invocation_eq_ok.mp read).2⟩
    cases taken : m.valueOf? o with
    | ok value? => rfl
    | error refusal =>
      have refused := Matches.valueOf?_eq_error.mp taken
      exact absurd refused ((values_of_invocation read).1 o member refusal)
  · rintro ⟨accepted, passed⟩
    rcases Matches.addOptions_ofList m v.reviewOptions.options [] with
      ⟨before, o, after, refusal, split, -, refused, -⟩ | ⟨-, added⟩
    · have member : o ∈ v.options := (reviewOptions_perm v).mem_iff.mp (by simp [split])
      have taken := accepted o member
      rw [Matches.valueOf?_eq_error.mpr refused] at taken
      cases taken
    · exact ⟨_, invocation_eq_ok.mpr ⟨⟨_, added, rfl⟩, passed⟩⟩

/-- Of distinct names, the destination of an option has the value of the option. -/
theorem valueOf?_of_invocation {seen : Invocation} {o : OptionSpec}
    (distinct : (v.options.map (·.dest) ++ v.arguments.map (·.name)).Nodup) (member : o ∈ v.options)
    (read : (v.invocation m).2 = .ok seen) : m.valueOf? o = .ok (seen.values.get? o.dest) := by
  obtain ⟨accepted, values⟩ := values_of_invocation read
  obtain ⟨destinations, -, apart⟩ := List.nodup_append.mp distinct
  have own : ∀ a ∈ v.arguments, a.name ≠ o.dest := fun a listed same =>
    apart o.dest (List.mem_map_of_mem member) a.name (List.mem_map_of_mem listed) same.symm
  cases taken : m.valueOf? o with
  | error refusal => exact absurd (Matches.valueOf?_eq_error.mp taken) (accepted o member refusal)
  | ok value? =>
    congr 1
    ext value
    rw [values, KeyMap.get?_ofList (entries_distinct distinct m), mem_entries_iff]
    constructor
    · intro found
      exact .option member (Matches.valueOf?_eq_ok.mp (taken.trans (congrArg Except.ok found)))
    · intro provides
      -- an argument has no name of an option, and another option has no destination of this one
      generalize key : o.dest = dest at provides
      cases provides with
      | option listed gives =>
        obtain rfl := List.inj_on_of_nodup_map destinations member listed key
        exact Except.ok.inj (taken.symm.trans (Matches.valueOf?_eq_ok.mpr gives))
      | supplied place => exact absurd key.symm (own _ (List.mem_of_getElem? place))
      | single place => exact absurd key.symm (own _ (List.mem_of_getElem? place))
      | several place => exact absurd key.symm (own _ (List.mem_of_getElem? place))

/-- Where the arguments are in order, an invocation is refused by its options alone. -/
theorem invocation_of_valid (valid : v.validate.2 = .ok ()) :
    (v.invocation m).2 =
      match m.addOptions v.reviewOptions.options .empty with
      | .error refusal => .error (.option refusal)
      | .ok values => .ok (v.seeing m values) := by
  have passed : v.argumentsReview = .due → firstMistake? v.name v.arguments = none := by
    intro due
    rw [validate, reviewOptions_eq] at valid
    cases wrong : firstMistake? v.name v.arguments with
    | none => rfl
    | some mistake => simp [reviewArguments, due, wrong] at valid
  cases added : m.addOptions v.reviewOptions.options .empty with
  | error refusal => simp only [invocation, added]
  | ok values => exact invocation_eq_ok.mpr ⟨⟨values, added, rfl⟩, passed⟩

/-- What a verb with distinct names sees is what its options, its supplied values and its open
arguments provide, each under its own name and nothing else; the values that are passed on come only
to a verb that passes them on. It sees nothing just where the text of an option is no list of
addresses, and is told of the first such option that it lists. -/
theorem invocation_sees_exactly (valid : v.validate.2 = .ok ())
    (distinct : (v.options.map (·.dest) ++ v.arguments.map (·.name)).Nodup) (m : Matches) :
    ((∃ fault, (v.invocation m).2 = .error fault) ↔
      ∃ o ∈ v.options, ∃ refusal, m.Refused o refusal) ∧
    (∀ fault, (v.invocation m).2 = .error fault →
      ∃ before o after refusal, v.reviewOptions.options = before ++ o :: after ∧
        (Sound v → v.reviewOptions.options.Pairwise OptionSpec.Before) ∧
        (∀ p ∈ before, ∀ refusal, ¬m.Refused p refusal) ∧ m.Refused o refusal ∧
        fault = .option refusal) ∧
    ∀ seen, (v.invocation m).2 = .ok seen →
      seen.verb = v.name ∧
      (∀ key value, seen.values.get? key = some value ↔ v.Provides m key value) ∧
      seen.passed = if v.attributes.passthrough then
        (m.texts.get? Positional.passedOn.id).getD [] else [] := by
  have listed : Sound v → v.reviewOptions.options.Pairwise OptionSpec.Before := fun sound =>
    sound.reviewOptions.2.2 ▸ sound.distinct.increasing
  have invoked := invocation_of_valid (m := m) valid
  rcases Matches.addOptions_ofList m v.reviewOptions.options [] with
    ⟨before, o, after, refusal, split, earlier, refused, failed⟩ | ⟨accepted, added⟩
  · rw [show KeyMap.empty = KeyMap.ofList ([] : List (String × Value)) from rfl, failed] at invoked
    have member : o ∈ v.options := (reviewOptions_perm v).mem_iff.mp (by simp [split])
    refine ⟨⟨fun _ => ⟨o, member, refusal, refused⟩, fun _ => ⟨_, invoked⟩⟩, ?_, ?_⟩
    · intro fault found
      have same : Fault.option refusal = fault := Except.error.inj (invoked.symm.trans found)
      exact ⟨before, o, after, refusal, split, listed, earlier, refused, same.symm⟩
    · intro seen found
      simp [invoked] at found
  · rw [show KeyMap.empty = KeyMap.ofList ([] : List (String × Value)) from rfl, added] at invoked
    simp only [List.nil_append, seeing_entries] at invoked
    refine ⟨⟨?_, ?_⟩, ?_, ?_⟩
    · rintro ⟨fault, found⟩
      simp [invoked] at found
    · rintro ⟨o, member, refusal, refused⟩
      exact absurd refused (accepted o ((reviewOptions_perm v).mem_iff.mpr member) refusal)
    · intro fault found
      simp [invoked] at found
    · intro seen found
      obtain rfl := Except.ok.inj (invoked.symm.trans found)
      refine ⟨rfl, fun key value => ?_, rfl⟩
      rw [KeyMap.get?_ofList (entries_distinct distinct m), mem_entries_iff]

/-- A verb with one supplied value, and with addresses that it knows by default. -/
def mirroring : Verb where
  name := "mirror"
  options :=
    [{ short := some 'f', long := none, dest := "force", help := none, kind := .flag },
      { short := some 's', long := none, dest := "servers", help := none, kind := .hosts 1 2 (some 80),
        default := some (.text "a, b:81") }]
  arguments := [{ name := "from", help := "" }, { name := "to", help := "", max := none }]
  argumentsReview := .due
  supplied := ["here"]

theorem invocation_sees_exactly_mirroring :
    let given : Matches := { texts := .ofList [("to", ["p", "q"])] }
    let wrong : Matches := { texts := .ofList [("servers", ["a:b"]), ("to", ["p"])] }
    mirroring.validate.2 = .ok () ∧
    (mirroring.options.map (·.dest) ++ mirroring.arguments.map (·.name)).Nodup ∧
    (∃ seen, (mirroring.invocation given).2 = .ok seen ∧
      seen.values.get? "force" = some (.flag false) ∧
      seen.values.get? "servers" = some (.hosts [⟨"a", some 80⟩, ⟨"b", some 81⟩]) ∧
      seen.values.get? "from" = some (.text "here") ∧
      seen.values.get? "to" = some (.list ["p", "q"])) ∧
    ∃ fault, (mirroring.invocation wrong).2 = .error fault := by
  intro given wrong
  have valid : mirroring.validate.2 = .ok () := rfl
  have distinct : (mirroring.options.map (·.dest) ++ mirroring.arguments.map (·.name)).Nodup := by
    decide
  obtain ⟨-, -, sees⟩ := invocation_sees_exactly valid distinct given
  obtain ⟨refuses, -, -⟩ := invocation_sees_exactly valid distinct wrong
  have parsed : HostAddress.parseList "servers" "a, b:81" 1 2 (some 80) =
      .ok [⟨"a", some 80⟩, ⟨"b", some 81⟩] := by decide +kernel
  have refused : HostAddress.parseList "servers" "a:b" 1 2 (some 80) =
      .error (.invalidHost "a:b" "bad port number") := by decide +kernel
  have accepted : (mirroring.invocation given).2.isOk := by decide +kernel
  refine ⟨valid, distinct, ?_, refuses.mpr ?_⟩
  · cases read : (mirroring.invocation given).2 with
    | error fault => simp [read, Except.isOk, Except.toBool] at accepted
    | ok seen =>
      obtain ⟨-, provides, -⟩ := sees seen read
      refine ⟨seen, rfl, ?_, ?_, ?_, ?_⟩ <;> rw [provides]
      · exact .option (o := mirroring.options[0]) (List.getElem_mem _) (.flag rfl)
      · exact .option (o := mirroring.options[1]) (List.getElem_mem _)
          (.hosts rfl (.inr ⟨rfl, rfl⟩) parsed)
      · exact .supplied (i := 0) (a := mirroring.arguments[0]) rfl rfl
      · exact .several (i := 1) (a := mirroring.arguments[1]) rfl (by decide) (by decide) rfl
  · exact ⟨_, List.mem_cons_of_mem _ List.mem_cons_self, _, 1, 2, some 80, "a:b", rfl, .inl rfl,
      refused⟩

end Verb

end CommandVerbs
