import CommandVerbs.Proofs.Config.Commands
import CommandVerbs.Proofs.Config.KeyFilters
import CommandVerbs.Proofs.KeyMap
import CommandVerbs.Proofs.Text.Lines

/-! What `get` shows of a setting that has just been set. A name without a dot means the same key to
both commands. A dotted name is itself the key when it is set, but is looked up under the key of the
tool. -/
namespace CommandVerbs.Config

variable {tool : Tool} {settings : KeyMap String} {name value key : String} {pair : String × String}

/-- The pair that is bound last stays. -/
theorem get?_bound_last (settings : KeyMap String) (pairs : List (String × String))
    (key value : String) : (bound settings (pairs ++ [(key, value)])).get? key = some value := by
  rw [bound, List.foldl_append, List.foldl_cons, List.foldl_nil]
  exact KeyMap.get?_insert_same _ _ _

/-- A key that lies under a filter is no shorter. -/
theorem prefix_of_keyMatches {filter : String} (lies : keyMatches key filter) :
    filter.toList <+: key.toList := by
  rcases Bool.or_eq_true_iff.mp lies with same | below
  · rw [eq_of_beq same]
  · exact (List.prefix_append _ _).trans (List.isPrefixOf_iff_prefix.mp below)

/-- A name is too short to lie under its own key. -/
theorem not_keyMatches_settingKey (tool : Tool) (name : String) :
    ¬keyMatches name (tool.settingKey name) := by
  intro lies
  have shorter := (prefix_of_keyMatches lies).length_le
  simp only [toList_settingKey, List.length_append, List.length_cons] at shorter
  omega

theorem mem_query {filter : String} :
    (key, value) ∈ (Store.memory settings).query (some filter) ↔
      settings.get? key = some value ∧ keyMatches key filter := by
  simp [mem_query_iff, Store.get?, Store.pairs]

/-- The trimmed texts before and after the first equals sign of an argument. -/
def nameAndValue? (argument : String) : Option (String × String) :=
  (Text.cutAt '=' argument).map (Prod.map Text.trim Text.trim)

theorem assignment?_eq (tool : Tool) (argument : String) :
    tool.assignment? argument =
      (nameAndValue? argument).map fun (name, value) => (tool.resolveKey name, value) := by
  rw [nameAndValue?, Tool.assignment?, Option.map_map]
  rfl

theorem not_mem_of_nameAndValue? {argument : String}
    (divided : nameAndValue? argument = some (name, value)) : '=' ∉ name.toList := by
  obtain ⟨⟨word, _⟩, cut, same⟩ := Option.map_eq_some_iff.mp divided
  obtain ⟨⟨before, after⟩, found, texts⟩ := Option.map_eq_some_iff.mp cut
  obtain ⟨rfl, -⟩ := Prod.mk.inj same
  obtain ⟨rfl, -⟩ := Prod.mk.inj texts
  obtain ⟨-, undivided⟩ := Text.cut_eq_some found
  rw [Text.trim, String.toList_ofList, String.toList_ofList]
  exact undivided ∘ Text.mem_of_mem_trimChars

theorem toList_pairLine (pair : String × String) :
    (Tool.pairLine pair).toList = pair.1.toList ++ '=' :: pair.2.toList := by
  simp [Tool.pairLine]

theorem notFound_not_mem_lines (undivided : '=' ∉ name.toList) (pairs : List (String × String)) :
    name ++ " *not found*" ∉ pairs.map Tool.pairLine := by
  intro member
  obtain ⟨pair, -, same⟩ := List.mem_map.mp member
  have divided : '=' ∈ (name ++ " *not found*").toList := by
    rw [← same, toList_pairLine]
    simp
  rw [String.toList_append] at divided
  rcases List.mem_append.mp divided with within | within
  · exact undivided within
  · exact absurd within (by decide)

/-- The line of a setting that lies under the key of a name is not the line of the name itself. -/
theorem pairLine_ne (plain : '=' ∉ tool.key.toList) (undivided : '=' ∉ name.toList)
    (lies : keyMatches pair.1 (tool.settingKey name)) (value : String) :
    Tool.pairLine pair ≠ Tool.pairLine (name, value) := by
  intro same
  have same := congrArg String.toList same
  rw [toList_pairLine, toList_pairLine] at same
  -- the key and the name with its equals sign start the same line, and the key is no shorter
  have key : (tool.settingKey name).toList <+: name.toList ++ '=' :: value.toList :=
    same ▸ (prefix_of_keyMatches lies).trans (List.prefix_append _ _)
  have start : name.toList ++ ['='] <+: name.toList ++ '=' :: value.toList :=
    List.prefix_append_right_inj _ |>.mpr (by simp)
  have within : name.toList ++ ['='] <+: (tool.settingKey name).toList := by
    refine List.prefix_of_prefix_length_le start key ?_
    simp only [toList_settingKey, List.length_append, List.length_cons, List.length_nil]
    omega
  have divided : '=' ∈ (tool.settingKey name).toList := within.subset (by simp)
  simp [toList_settingKey, plain, undivided] at divided

theorem mem_query_resolved (kept : settings.get? (tool.resolveKey name) = some value) :
    (tool.resolveKey name, value) ∈ (Store.memory settings).query (some (tool.settingKey name)) ↔
      '.' ∉ name.toList := by
  rw [mem_query, Tool.resolveKey]
  by_cases dotted : '.' ∈ name.toList
  · simp [dotted, not_keyMatches_settingKey]
  · rw [Tool.resolveKey, if_neg (by simpa using dotted)] at kept
    simp [dotted, kept, keyMatches_refl]

theorem notFound_mem_shown (undivided : '=' ∉ name.toList) (settings : KeyMap String) :
    name ++ " *not found*" ∈ tool.shown settings name ↔
      (Store.memory settings).query (some (tool.settingKey name)) = [] := by
  rw [Tool.shown]
  by_cases none : (Store.memory settings).query (some (tool.settingKey name)) = []
  · simp [none]
  · simp only [List.isEmpty_iff, none, if_false, iff_false]
    exact notFound_not_mem_lines undivided _

theorem pairLine_mem_shown
    (found : pair ∈ (Store.memory settings).query (some (tool.settingKey name))) :
    Tool.pairLine pair ∈ tool.shown settings name := by
  have some := List.ne_nil_of_mem found
  simp only [Tool.shown, List.isEmpty_iff, some, if_false]
  exact List.mem_map_of_mem found

theorem pairLine_not_mem_shown (plain : '=' ∉ tool.key.toList) (undivided : '=' ∉ name.toList)
    (settings : KeyMap String) (value : String) :
    Tool.pairLine (name, value) ∉ tool.shown settings name := by
  rw [Tool.shown]
  by_cases none : (Store.memory settings).query (some (tool.settingKey name)) = []
  · simp only [List.isEmpty_iff, none, if_true, List.mem_singleton]
    exact fun same => notFound_not_mem_lines undivided [(name, value)] (by simp [← same])
  · simp only [List.isEmpty_iff, none, if_false]
    intro member
    obtain ⟨⟨key, held⟩, found, same⟩ := List.mem_map.mp member
    exact pairLine_ne plain undivided (mem_query.mp found).2 value same

/-- After a pair has been set, asking for the name in the argument shows the pair, and does not
report the name as not found, if there is no dot in the name. If there is one, what is shown are the
settings under the key of the tool and the name, and the pair is never among them. -/
theorem get_finds_set {σ : Type} {runner : Runner σ} {rep : View → σ → Prop}
    (host : SettingsHost runner rep) (tool : Tool) {view : View} {s : σ} {earlier : List String}
    {argument : String} (seen : rep view s) (given : view.arguments = earlier ++ [argument])
    (done : (tool.set.run runner s).1 = .done ()) :
    ∃ name value settings output t,
      nameAndValue? argument = some (name, value) ∧
      tool.set.run runner s = (.done (), t) ∧ rep { view with settings, output } t ∧
      settings.get? (tool.resolveKey name) = some value ∧
      ∀ (later : View) (u : σ), rep later u → later.settings = settings → later.arguments = [name] →
        ∃ lines after, tool.get.run runner u = (.done (), after) ∧
          rep { later with output := later.output ++ printed lines } after ∧
          ('.' ∉ name.toList → Tool.pairLine (tool.resolveKey name, value) ∈ lines ∧
            name ++ " *not found*" ∉ lines) ∧
          ('.' ∈ name.toList → '=' ∉ tool.key.toList →
            Tool.pairLine (tool.resolveKey name, value) ∉ lines) ∧
          ((tool.resolveKey name, value) ∈
            (Store.memory settings).query (some (tool.settingKey name)) ↔ '.' ∉ name.toList) ∧
          (name ++ " *not found*" ∈ lines ↔
            (Store.memory settings).query (some (tool.settingKey name)) = []) := by
  obtain ⟨pairs, t, ran, stored⟩ := host.run_set tool seen done
  obtain ⟨⟨name, value⟩, divided⟩ : ∃ parts, nameAndValue? argument = some parts := by
    have pair := pairs argument (by simp [given])
    rwa [assignment?_eq, Option.isSome_map, Option.isSome_iff_exists] at pair
  have undivided := not_mem_of_nameAndValue? divided
  have kept : (bound view.settings (view.arguments.filterMap tool.assignment?)).get?
      (tool.resolveKey name) = some value := by
    have last : view.arguments.filterMap tool.assignment? =
        earlier.filterMap tool.assignment? ++ [(tool.resolveKey name, value)] := by
      simp [given, assignment?_eq, divided]
    rw [last]
    exact get?_bound_last view.settings _ _ _
  refine ⟨name, value, _, _, t, divided, ran, stored, kept, fun later u shown same asked => ?_⟩
  rw [← same] at kept ⊢
  have found := mem_query_resolved kept
  obtain ⟨after, ran, shown⟩ := host.run_get tool shown
  have lines : tool.told later.settings later.arguments = tool.shown later.settings name := by
    simp [Tool.told, asked]
  rw [lines] at shown
  refine ⟨_, after, ran, shown, fun plain => ⟨?_, ?_⟩, fun dotted clear => ?_, found,
    notFound_mem_shown undivided _⟩
  · exact pairLine_mem_shown (found.mpr plain)
  · rw [notFound_mem_shown undivided]
    exact List.ne_nil_of_mem (found.mpr plain)
  · rw [Tool.resolveKey, if_pos (by simpa using dotted)]
    exact pairLine_not_mem_shown clear undivided _ _

theorem get_finds_set_user :
    ((Tool.set { key := "volt" }).run Recorder.runner (recorderOf ["user = admin"] .empty)).1 =
      .done () ∧
    ∃ settings, settings.get? "volt.user" = some "admin" ∧
      ∃ lines after, (Tool.get { key := "volt" }).run Recorder.runner (recorderOf ["user"] settings) =
        (.done (), after) ∧ after.output = "" ++ printed lines ∧ "volt.user=admin" ∈ lines ∧
        "user *not found*" ∉ lines := by
  have done : ((Tool.set { key := "volt" }).run Recorder.runner
      (recorderOf ["user = admin"] .empty)).1 = .done () := by decide +kernel
  have given : (recorderOf ["user = admin"] .empty).invocation.values.list argumentName =
      [] ++ ["user = admin"] := arguments_recorderOf ["user = admin"] .empty
  obtain ⟨name, value, settings, _, _, divided, -, -, kept, later⟩ :=
    get_finds_set recorder_host { key := "volt" } rfl given done
  have parts : nameAndValue? "user = admin" = some ("user", "admin") := by decide +kernel
  obtain ⟨rfl, rfl⟩ := Prod.mk.inj (Option.some.inj (parts.symm.trans divided))
  have key : Tool.resolveKey { key := "volt" } "user" = "volt.user" := by decide +kernel
  rw [key] at kept later
  obtain ⟨lines, after, ran, shown, plain, -⟩ :=
    later _ (recorderOf ["user"] settings) rfl rfl (arguments_recorderOf ["user"] settings)
  obtain ⟨line, found⟩ := plain (by decide)
  exact ⟨done, settings, kept, lines, after, ran, (congrArg View.output shown).symm, line, found⟩

/-- A dotted name is reported as not found right after it has been set. -/
theorem dotted_name_not_found :
    let set := (Tool.set { key := "volt" }).run Recorder.runner (recorderOf ["x.y=1"] .empty)
    let get := (Tool.get { key := "volt" }).run Recorder.runner (recorderOf ["x.y"] set.2.settings)
    set.1 = .done () ∧ set.2.output = "set x.y=1\n" ∧ get.1 = .done () ∧
      get.2.output = "x.y *not found*\n" := by
  decide +kernel

end CommandVerbs.Config
