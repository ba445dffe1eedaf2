import CommandVerbs.Proofs.Config.Reopening
import CommandVerbs.Proofs.Config.SetThenGet

/-! Setting what has been listed. The keys that setting binds are dotted and trimmed, and so are the
values trimmed, so that the line of a pair, taken as an argument, is the same pair again, whatever the
tool. The lines of all settings therefore set the same settings anew. -/
namespace CommandVerbs.Config

variable {tool : Tool} {settings : KeyMap String} {pair : String × String} {argument : String}
  {pairs : List (String × String)}

/-- A pair whose line, taken as an argument, asks for the pair itself. -/
structure Relistable (pair : String × String) : Prop where
  trimmed : Text.trim pair.1 = pair.1
  dotted : '.' ∈ pair.1.toList
  undivided : '=' ∉ pair.1.toList
  flat : Text.trim pair.2 = pair.2

theorem Relistable.assignment? (relistable : Relistable pair) (tool : Tool) :
    tool.assignment? (Tool.pairLine pair) = some pair := by
  have parts : Text.cutAt '=' (Tool.pairLine pair) = some pair := by
    rw [Text.cutAt, toList_pairLine, Text.cut_append relistable.undivided]
    simp
  have key : tool.resolveKey pair.1 = pair.1 := if_pos (by simpa using relistable.dotted)
  rw [Tool.assignment?, parts]
  change some (tool.resolveKey (Text.trim pair.1), Text.trim pair.2) = some pair
  rw [relistable.trimmed, relistable.flat, key]

theorem Relistable.named (relistable : Relistable pair) : Text.trim pair.1 ≠ "" := by
  rw [relistable.trimmed]
  intro empty
  have dotted := relistable.dotted
  simp [empty] at dotted

theorem trim_eq_self_iff {s : String} : Text.trim s = s ↔ Text.trimChars s.toList = s.toList := by
  rw [Text.trim, ← String.toList_inj, String.toList_ofList]

/-- A tool whose key can begin the key of a setting. -/
structure Tool.Leads (tool : Tool) : Prop where
  undivided : '=' ∉ tool.key.toList
  /-- no blank comes first -/
  flush : ∀ c ∈ tool.key.toList.head?, Text.isBlank c = false

/-- A trimmed name stays trimmed behind the key of a tool. -/
theorem Tool.Leads.trim_settingKey (leads : tool.Leads) {name : String}
    (trimmed : Text.trim name = name) : Text.trim (tool.settingKey name) = tool.settingKey name := by
  obtain ⟨-, last⟩ := Text.trimChars_eq_self_iff.mp (trim_eq_self_iff.mp trimmed)
  rw [trim_eq_self_iff, toList_settingKey, Text.trimChars_eq_self_iff]
  constructor
  · intro c first
    cases key : tool.key.toList with
    | nil =>
      rw [key] at first
      obtain rfl : '.' = c := by simpa using first
      decide
    | cons d rest =>
      rw [key] at first
      obtain rfl : d = c := by simpa using first
      exact leads.flush d (by simp [key])
  · intro c final
    rw [List.getLast?_append_of_ne_nil _ (List.cons_ne_nil _ _), List.getLast?_cons] at final
    cases there : name.toList.getLast? with
    | none =>
      obtain rfl : '.' = c := by simpa [there] using final
      decide
    | some d =>
      obtain rfl : d = c := by simpa [there] using final
      exact last d there

/-- What an argument asks for is a pair of this kind. -/
theorem Tool.Leads.relistable (leads : tool.Leads) (given : tool.assignment? argument = some pair) :
    Relistable pair := by
  rw [assignment?_eq] at given
  obtain ⟨⟨name, value⟩, divided, rfl⟩ := Option.map_eq_some_iff.mp given
  have undivided := not_mem_of_nameAndValue? divided
  obtain ⟨⟨word, rest⟩, -, same⟩ := Option.map_eq_some_iff.mp divided
  obtain ⟨rfl, rfl⟩ := Prod.mk.inj same
  by_cases dotted : '.' ∈ (Text.trim word).toList
  · have key : tool.resolveKey (Text.trim word) = Text.trim word := if_pos (by simpa using dotted)
    simp only [key]
    exact ⟨Text.trim_trim word, dotted, undivided, Text.trim_trim rest⟩
  · have key : tool.resolveKey (Text.trim word) = tool.settingKey (Text.trim word) :=
      if_neg (by simpa using dotted)
    simp only [key]
    refine ⟨leads.trim_settingKey (Text.trim_trim word), ?_, ?_, Text.trim_trim rest⟩ <;>
      simp [toList_settingKey, leads.undivided, undivided]

/-- What an argument without a line feed asks for stands on one line if the key of the tool does. -/
theorem single_of_assignment? (single : '\n' ∉ tool.key.toList) (flat : '\n' ∉ argument.toList)
    (given : tool.assignment? argument = some pair) : '\n' ∉ (Tool.pairLine pair).toList := by
  rw [assignment?_eq] at given
  obtain ⟨⟨name, value⟩, divided, rfl⟩ := Option.map_eq_some_iff.mp given
  obtain ⟨⟨word, rest⟩, cut, same⟩ := Option.map_eq_some_iff.mp divided
  obtain ⟨rfl, rfl⟩ := Prod.mk.inj same
  obtain ⟨⟨before, after⟩, found, texts⟩ := Option.map_eq_some_iff.mp cut
  obtain ⟨rfl, rfl⟩ := Prod.mk.inj texts
  obtain ⟨whole, -⟩ := Text.cut_eq_some found
  have within : ∀ chars : List Char, (∀ c ∈ chars, c ∈ argument.toList) →
      '\n' ∉ (Text.trim (String.ofList chars)).toList := by
    intro chars inside member
    rw [Text.trim, String.toList_ofList, String.toList_ofList] at member
    exact flat (inside _ (Text.mem_of_mem_trimChars member))
  have name := within before fun c member => whole ▸ List.mem_append_left _ member
  have value := within after fun c member =>
    whole ▸ List.mem_append_right _ (List.mem_cons_of_mem _ member)
  have key : '\n' ∉ (tool.resolveKey (Text.trim (String.ofList before))).toList := by
    unfold Tool.resolveKey
    split
    · exact name
    · simp [toList_settingKey, single, name]
  simp [toList_pairLine, key, value]

/-- The lines of pairs are the lines of the text in which each of them ends with a line feed. -/
theorem lines_printed (relistable : ∀ pair ∈ pairs, Relistable pair)
    (single : ∀ pair ∈ pairs, '\n' ∉ (Tool.pairLine pair).toList) :
    Text.lines (printed (pairs.map Tool.pairLine)) = pairs.map Tool.pairLine := by
  induction pairs with
  | nil => rfl
  | cons pair rest ih =>
    obtain ⟨first, relistable⟩ := List.forall_mem_cons.mp relistable
    obtain ⟨here, single⟩ := List.forall_mem_cons.mp single
    have kept : Text.dropReturn (Tool.pairLine pair).toList = (Tool.pairLine pair).toList := by
      apply Text.dropReturn_of_solid
      intro c last
      rw [toList_pairLine, List.getLast?_append_of_ne_nil _ (List.cons_ne_nil _ _),
        List.getLast?_cons] at last
      cases there : pair.2.toList.getLast? with
      | none =>
        obtain rfl : '=' = c := by simpa [there] using last
        decide
      | some d =>
        obtain rfl : d = c := by simpa [there] using last
        exact (Text.trimChars_eq_self_iff.mp (trim_eq_self_iff.mp first.flat)).2 d there
    have text : (printed ((pair :: rest).map Tool.pairLine)).toList =
        (Tool.pairLine pair).toList ++ '\n' :: (printed (rest.map Tool.pairLine)).toList := by
      rw [List.map_cons, printed_cons]
      simp
    rw [Text.lines, text, Text.lineChars_append here, kept, List.map_cons, String.ofList_toList,
      List.map_cons]
    exact congrArg _ (ih relistable single)

variable {σ : Type} {runner : Runner σ} {rep : View → σ → Prop}

/-- Settings that come from none by setting pairs with a tool, as often as one likes, by arguments
without line feeds. -/
inductive Reached (runner : Runner σ) (rep : View → σ → Prop) (tool : Tool) :
    KeyMap String → Prop where
  | none : Reached runner rep tool .empty
  | set {view : View} {s t : σ} {settings : KeyMap String} {output : String} :
    Reached runner rep tool view.settings → rep view s →
    (∀ argument ∈ view.arguments, '\n' ∉ argument.toList) →
    tool.set.run runner s = (.done (), t) → rep { view with settings, output } t →
    Reached runner rep tool settings

/-- A state shows the settings that are listed there. -/
theorem SettingsHost.settings_eq (host : SettingsHost runner rep) {view other : View} {s : σ}
    (seen : rep view s) (seen' : rep other s) : view.settings = other.settings := by
  have listed := (host.listed view s none seen).1.symm.trans (host.listed other s none seen').1
  rw [Store.query_none, Store.query_none] at listed
  exact KeyMap.ext_toList listed

theorem mem_bound (member : pair ∈ (bound settings pairs).toList) :
    pair ∈ settings.toList ∨ pair ∈ pairs := by
  induction pairs generalizing settings with
  | nil => exact .inl member
  | cons first rest ih =>
    rcases ih member with before | later
    · rcases mem_insertEntry before with same | old
      · exact .inr (same ▸ List.mem_cons_self)
      · exact .inl old
    · exact .inr (List.mem_cons_of_mem _ later)

/-- Every pair that has been reached is one that an argument without a line feed asks for. -/
theorem Reached.asked (host : SettingsHost runner rep) (reached : Reached runner rep tool settings) :
    ∀ pair ∈ settings.toList, ∃ argument, '\n' ∉ argument.toList ∧
      tool.assignment? argument = some pair := by
  induction reached with
  | none => simp [KeyMap.empty]
  | @set view s t settings output _ seen flat ran seen' ih =>
    obtain ⟨-, u, ran', stored⟩ := host.run_set tool seen (by rw [ran])
    obtain rfl : u = t := congrArg Prod.snd (ran'.symm.trans ran)
    obtain rfl : bound view.settings _ = settings := host.settings_eq stored seen'
    intro pair member
    rcases mem_bound member with before | now
    · exact ih pair before
    · obtain ⟨argument, inside, given⟩ := List.mem_filterMap.mp now
      exact ⟨argument, flat argument inside, given⟩

/-- Settings that have been set by a tool whose key stands on one line, without an equals sign and
without a blank at its start, are printed as lines that set the same settings where there are none. -/
theorem set_restores_listed (host : SettingsHost runner rep) (leads : tool.Leads)
    (single : '\n' ∉ tool.key.toList) (reached : Reached runner rep tool settings)
    (filled : settings.toList ≠ []) :
    ∃ text,
      (∀ view s, rep view s → view.settings = settings → view.arguments = [] →
        ∃ t, tool.get.run runner s = (.done (), t) ∧
          rep { view with output := view.output ++ text } t) ∧
      Text.lines text = settings.toList.map Tool.pairLine ∧
      ∀ view s, rep view s → view.settings = .empty → view.arguments = Text.lines text →
        ∃ output t, tool.set.run runner s = (.done (), t) ∧ rep { view with settings, output } t := by
  have relistable : ∀ pair ∈ settings.toList, Relistable pair := by
    intro pair member
    obtain ⟨_, -, given⟩ := reached.asked host pair member
    exact leads.relistable given
  have lines : Text.lines (printed (settings.toList.map Tool.pairLine)) =
      settings.toList.map Tool.pairLine := by
    refine lines_printed relistable fun pair member => ?_
    obtain ⟨_, flat, given⟩ := reached.asked host pair member
    exact single_of_assignment? single flat given
  refine ⟨_, fun view s seen same all => ?_, lines, fun view s seen empty given => ?_⟩
  · obtain ⟨t, ran, seen⟩ := host.run_get tool seen
    refine ⟨t, ran, ?_⟩
    have told : tool.told view.settings view.arguments = settings.toList.map Tool.pairLine := by
      rw [all, same, Tool.told, if_pos List.isEmpty_nil, Store.query_none]
      rfl
    exact told ▸ seen
  · rw [lines] at given
    have asked : ∀ argument ∈ view.arguments, ∃ pair, tool.assignment? argument = some pair ∧
        Text.trim pair.1 ≠ "" := by
      rw [given]
      intro argument member
      obtain ⟨pair, inside, rfl⟩ := List.mem_map.mp member
      exact ⟨pair, (relistable pair inside).assignment? tool, (relistable pair inside).named⟩
    have pairs : view.arguments.filterMap tool.assignment? = settings.toList := by
      rw [given, List.filterMap_map]
      refine (List.filterMap_congr fun pair member => ?_).trans List.filterMap_some
      exact (relistable pair member).assignment? tool
    have same : bound view.settings settings.toList = settings := by
      rw [empty]
      exact KeyMap.ext_toList (KeyMap.toList_ofList settings.ascending)
    obtain ⟨-, t, ran, stored⟩ :=
      host.run_set tool seen (host.set_done tool seen (by simpa [given] using filled) asked)
    rw [pairs, same] at stored
    exact ⟨_, t, ran, stored⟩

/-- What a recording runner shows with the given arguments and settings, before it has printed. -/
theorem recorded_recorderOf (arguments : List String) (settings : KeyMap String) :
    recorded ⟨arguments, settings, ""⟩ (recorderOf arguments settings) := by
  rw [recorded, arguments_recorderOf]
  rfl

/-- Settings that one command sets where there are none are reached. -/
theorem Reached.first {arguments : List String} (flat : ∀ argument ∈ arguments, '\n' ∉ argument.toList)
    (given : arguments.filterMap tool.assignment? = pairs)
    (done : (tool.set.run Recorder.runner (recorderOf arguments .empty)).1 = .done ()) :
    Reached Recorder.runner recorded tool (bound .empty pairs) := by
  have seen := recorded_recorderOf arguments .empty
  obtain ⟨-, t, ran, stored⟩ := recorder_host.run_set tool seen done
  rw [given] at stored
  exact .set .none seen flat ran stored

theorem set_restores_listed_user :
    let tool : Tool := { key := "volt" }
    let settings := bound .empty [("volt.user", "a=b"), ("x.y", "1")]
    let lines := ["volt.user=a=b", "x.y=1"]
    Reached Recorder.runner recorded tool settings ∧
    (∃ t, tool.get.run Recorder.runner (recorderOf [] settings) = (.done (), t) ∧
      Text.lines t.output = lines) ∧
    ∃ t, tool.set.run Recorder.runner (recorderOf lines .empty) = (.done (), t) ∧
      t.settings = settings := by
  intro tool settings lines
  have leads : tool.Leads := by
    refine ⟨by decide, fun c first => ?_⟩
    obtain rfl : 'v' = c := by simpa [tool] using first
    decide +kernel
  have reached : Reached Recorder.runner recorded tool settings := by
    have pairs : ["user = a=b ", " x.y=1"].filterMap tool.assignment? =
        [("volt.user", "a=b"), ("x.y", "1")] := by
      decide +kernel
    exact .first (by decide) pairs (by decide +kernel)
  have listed : settings.toList.map Tool.pairLine = lines := by decide +kernel
  obtain ⟨text, get, split, again⟩ :=
    set_restores_listed recorder_host leads (by decide) reached (by decide +kernel)
  rw [listed] at split
  rw [split] at again
  obtain ⟨told, ran, shown⟩ := get _ _ (recorded_recorderOf [] settings) rfl rfl
  obtain ⟨_, kept, set, held⟩ := again _ _ (recorded_recorderOf lines .empty) rfl rfl
  refine ⟨reached, ⟨told, ran, ?_⟩, kept, set, (congrArg View.settings held).symm⟩
  have output : "" ++ text = told.output := congrArg View.output shown
  rw [← output, String.empty_append, split]

/-- The key of a tool that stands on two lines is printed on two lines, of which the first one is no
assignment. -/
theorem set_refuses_listed :
    let tool : Tool := { key := "a\nb" }
    let settings := bound .empty [("a\nb.x", "1")]
    tool.Leads ∧ Reached Recorder.runner recorded tool settings ∧ settings.toList ≠ [] ∧
    (∃ t, tool.get.run Recorder.runner (recorderOf [] settings) = (.done (), t) ∧
      Text.lines t.output = ["a", "b.x=1"]) ∧
    ∃ t, tool.set.run Recorder.runner (recorderOf ["a", "b.x=1"] .empty) =
        (.failed (.aborted "Bad arguments (must be KEY=VALUE format):" ["a"]), t) ∧
      t.settings = .empty := by
  intro tool settings
  have leads : tool.Leads := by
    refine ⟨by decide, fun c first => ?_⟩
    obtain rfl : 'a' = c := by simpa [tool] using first
    decide +kernel
  have reached : Reached Recorder.runner recorded tool settings := by
    have pairs : ["x=1"].filterMap tool.assignment? = [("a\nb.x", "1")] := by decide +kernel
    exact .first (by decide) pairs (by decide +kernel)
  obtain ⟨told, ran, shown⟩ := recorder_host.run_get tool (recorded_recorderOf [] settings)
  refine ⟨leads, reached, by decide +kernel, ⟨told, ran, ?_⟩, _, rfl, ?_⟩
  · have output : told.output = "" ++ printed (tool.told settings []) :=
      (congrArg View.output shown).symm
    rw [output]
    decide +kernel
  · decide +kernel

end CommandVerbs.Config
