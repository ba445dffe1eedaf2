import CommandVerbs.Proofs.Config.ListThenSet
import CommandVerbs.Proofs.Config.StoreCommands

/-! What setting leaves where the settings are in memory. Every argument with an equals sign asks for a
pair, and of the pairs that are asked for under one key, however it is spelled, the last one counts. -/
namespace CommandVerbs.Config

variable {tool : Tool} {argument : String} {pair : String × String}

/-- What an argument asks for: the part before the first equals sign names a setting, by its whole key
if there is a dot in it and else under the key of the tool. -/
inductive Tool.Asks (tool : Tool) : String → String × String → Prop where
  | dotted {word text : String} (undivided : '=' ∉ word.toList) (dotted : '.' ∈ (Text.trim word).toList) :
    Asks tool (word ++ "=" ++ text) (Text.trim word, Text.trim text)
  | bare {word text : String} (undivided : '=' ∉ word.toList) (bare : '.' ∉ (Text.trim word).toList) :
    Asks tool (word ++ "=" ++ text) (tool.key ++ "." ++ Text.trim word, Text.trim text)

theorem nameAndValue?_append {word : String} (undivided : '=' ∉ word.toList) (text : String) :
    nameAndValue? (word ++ "=" ++ text) = some (Text.trim word, Text.trim text) := by
  have parts : (word ++ "=" ++ text).toList = word.toList ++ '=' :: text.toList := by simp
  rw [nameAndValue?, Text.cutAt, parts, Text.cut_append undivided]
  simp

theorem Tool.asks_iff : tool.Asks argument pair ↔ tool.assignment? argument = some pair := by
  constructor
  · rintro (⟨undivided, dotted⟩ | ⟨undivided, bare⟩)
    · rw [assignment?_eq, nameAndValue?_append undivided]
      simp [resolveKey, dotted]
    · rw [assignment?_eq, nameAndValue?_append undivided]
      simp [resolveKey, bare, settingKey]
  · intro given
    rw [assignment?_eq, nameAndValue?, Option.map_map] at given
    obtain ⟨⟨word, text⟩, cut, rfl⟩ := Option.map_eq_some_iff.mp given
    obtain ⟨⟨before, after⟩, found, texts⟩ := Option.map_eq_some_iff.mp cut
    obtain ⟨rfl, rfl⟩ := Prod.mk.inj texts
    obtain ⟨whole, undivided⟩ := Text.cut_eq_some found
    have parts : argument = String.ofList before ++ "=" ++ String.ofList after := by
      rw [← String.toList_inj, whole]
      simp
    have undivided : '=' ∉ (String.ofList before).toList := by simpa using undivided
    change tool.Asks argument
      (tool.resolveKey (Text.trim (String.ofList before)), Text.trim (String.ofList after))
    rw [parts, resolveKey]
    by_cases dotted : '.' ∈ (Text.trim (String.ofList before)).toList
    · rw [if_pos (by simpa using dotted)]
      exact .dotted undivided dotted
    · rw [if_neg (by simpa using dotted)]
      exact .bare undivided dotted

theorem Tool.assignment?_eq_none_iff (tool : Tool) {argument : String} :
    tool.assignment? argument = none ↔ '=' ∉ argument.toList := by
  rw [assignment?, Text.cutAt, Option.map_map, Option.map_eq_none_iff]
  constructor
  · exact Text.cut_eq_none
  · intro undivided
    cases found : Text.cut '=' argument.toList with
    | none => rfl
    | some parts =>
      obtain ⟨whole, -⟩ := Text.cut_eq_some found
      exact absurd (whole ▸ List.mem_append_right _ List.mem_cons_self) undivided

theorem Tool.Asks.named (asks : tool.Asks argument pair) : Text.trim pair.1 ≠ "" := by
  have dotted : '.' ∈ pair.1.toList := by
    cases asks with
    | dotted _ dotted => exact dotted
    | bare => simp
  have left := Text.trimChars_ne_nil dotted (by decide)
  simpa [Text.trim] using left

theorem forall₂_asks {arguments : List String}
    (good : ∀ argument ∈ arguments, (tool.assignment? argument).isSome) :
    List.Forall₂ tool.Asks arguments (arguments.filterMap tool.assignment?) := by
  induction arguments with
  | nil => exact .nil
  | cons argument rest ih =>
    obtain ⟨first, good⟩ := List.forall_mem_cons.mp good
    obtain ⟨pair, given⟩ := Option.isSome_iff_exists.mp first
    rw [List.filterMap_cons_some given]
    exact .cons (Tool.asks_iff.mpr given) (ih good)

theorem filterMap_of_asks {arguments : List String} {pairs : List (String × String)}
    (asks : List.Forall₂ tool.Asks arguments pairs) : arguments.filterMap tool.assignment? = pairs := by
  induction asks with
  | nil => rfl
  | cons first _ ih => rw [List.filterMap_cons_some (Tool.asks_iff.mp first), ih]

/-- A name and its dotted spelling ask for the same key if the key of the tool can be spelled. -/
theorem Tool.Leads.asks_same (leads : tool.Leads) {name : String} (trimmed : Text.trim name = name)
    (undivided : '=' ∉ name.toList) (bare : '.' ∉ name.toList) (text : String) :
    tool.Asks (name ++ "=" ++ text) (tool.settingKey name, Text.trim text) ∧
      tool.Asks (tool.settingKey name ++ "=" ++ text) (tool.settingKey name, Text.trim text) := by
  constructor
  · have asks : tool.Asks (name ++ "=" ++ text) _ := .bare undivided (trimmed.symm ▸ bare)
    rwa [trimmed] at asks
  · have dotted : '.' ∈ (Text.trim (tool.settingKey name)).toList := by
      rw [leads.trim_settingKey trimmed]
      simp [toList_settingKey]
    have undivided : '=' ∉ (tool.settingKey name).toList := by
      simp [toList_settingKey, leads.undivided, undivided]
    have asks : tool.Asks (tool.settingKey name ++ "=" ++ text) _ := .dotted undivided dotted
    rwa [leads.trim_settingKey trimmed] at asks

/-- What a word asks for is one pair. -/
theorem Tool.Asks.eq_of_undivided {word text : String} (undivided : '=' ∉ word.toList)
    (asks : tool.Asks (word ++ "=" ++ text) pair) :
    pair = (tool.resolveKey (Text.trim word), Text.trim text) := by
  have given := asks_iff.mp asks
  rw [assignment?_eq, nameAndValue?_append undivided] at given
  exact (Option.some.inj given).symm

/-- A name and a dotted spelling ask for one key just if the spelling is the name under the key of
the tool. -/
theorem Tool.asks_same_iff {name dotted first second : String} {pair other : String × String}
    (undivided : '=' ∉ name.toList) (bare : '.' ∉ (Text.trim name).toList)
    (undivided' : '=' ∉ dotted.toList) (dot : '.' ∈ (Text.trim dotted).toList)
    (asks : tool.Asks (name ++ "=" ++ first) pair)
    (asks' : tool.Asks (dotted ++ "=" ++ second) other) :
    pair.1 = other.1 ↔ Text.trim dotted = tool.settingKey (Text.trim name) := by
  rw [asks.eq_of_undivided undivided, asks'.eq_of_undivided undivided']
  simp only [resolveKey, bare, dot, List.contains_eq_mem, decide_false, decide_true, if_true,
    Bool.false_eq_true, if_false]
  exact eq_comm

/-- A name has a dotted spelling just if the key of the tool can begin one. -/
theorem Tool.leads_iff {name : String} (undivided : '=' ∉ name.toList) :
    tool.Leads ↔
      ∃ dotted, '=' ∉ dotted.toList ∧ Text.trim dotted = tool.settingKey (Text.trim name) := by
  constructor
  · intro leads
    refine ⟨tool.settingKey (Text.trim name), ?_, leads.trim_settingKey (Text.trim_trim name)⟩
    have trimmed : '=' ∉ (Text.trim name).toList := by
      rw [Text.trim, String.toList_ofList]
      exact undivided ∘ Text.mem_of_mem_trimChars
    simp [toList_settingKey, leads.undivided, trimmed]
  · rintro ⟨dotted, whole, spelled⟩
    have inside : ∀ c ∈ tool.key.toList, c ∈ (Text.trim dotted).toList := by
      intro c member
      rw [spelled, toList_settingKey]
      exact List.mem_append_left _ member
    constructor
    · intro divided
      have within := inside _ divided
      rw [Text.trim, String.toList_ofList] at within
      exact whole (Text.mem_of_mem_trimChars within)
    · intro c first
      obtain ⟨rest, key⟩ := List.head?_eq_some_iff.mp first
      have kept := trim_eq_self_iff.mp (Text.trim_trim dotted)
      refine (Text.trimChars_eq_self_iff.mp kept).1 c ?_
      rw [spelled, toList_settingKey, key]
      rfl

theorem fault?_asked {settings : KeyMap String} (arguments : List String) :
    (Store.memory settings).fault? (arguments.filterMap tool.assignment?) = none := by
  rw [Store.fault?_eq_none]
  intro pair member
  obtain ⟨argument, -, given⟩ := List.mem_filterMap.mp member
  exact if_neg (Tool.asks_iff.mpr given).named

/-- Setting arguments that all have an equals sign binds what they ask for, in order, and shows each
pair. Without arguments, or with some that have no equals sign, it stops with these and changes
nothing. A bare name and a dotted spelling ask for one key just if the spelling is the name under the
key of the tool, and there is such a spelling just if that key has no equals sign and no blank at its
start. -/
theorem set_effect {σ : Type} {runner : Runner σ} {rep : StoreView → σ → Prop}
    (host : StoreHost runner rep) (tool : Tool) {view : StoreView} {s : σ} {settings : KeyMap String}
    (seen : rep view s) (memory : view.store = .memory settings) :
    (view.arguments ≠ [] → (∀ argument ∈ view.arguments, '=' ∈ argument.toList) →
      ∃ pairs after t, List.Forall₂ tool.Asks view.arguments pairs ∧
        tool.set.run runner s = (.done (), t) ∧
        rep { view with
          store := .memory after
          output := view.output ++ printed (pairs.map fun pair => "set " ++ pair.1 ++ "=" ++ pair.2) } t ∧
        BoundInOrder id pairs settings.get? after.get?) ∧
    (view.arguments = [] ∨ (∃ argument ∈ view.arguments, '=' ∉ argument.toList) →
      ∃ t, tool.set.run runner s = (.failed (.aborted (objection view.arguments)
          (view.arguments.filter ('=' ∉ ·.toList))), t) ∧ rep view t) ∧
    (tool.Leads → ∀ name, Text.trim name = name → '=' ∉ name.toList → '.' ∉ name.toList →
      ∀ text, tool.Asks (name ++ "=" ++ text) (tool.settingKey name, Text.trim text) ∧
        tool.Asks (tool.settingKey name ++ "=" ++ text) (tool.settingKey name, Text.trim text)) ∧
    (∀ name dotted, '=' ∉ name.toList → '.' ∉ (Text.trim name).toList →
      '=' ∉ dotted.toList → '.' ∈ (Text.trim dotted).toList →
      ∀ first second pair other, tool.Asks (name ++ "=" ++ first) pair →
        tool.Asks (dotted ++ "=" ++ second) other →
        (pair.1 = other.1 ↔ Text.trim dotted = tool.settingKey (Text.trim name))) ∧
    ∀ name, '=' ∉ name.toList → (tool.Leads ↔
      ∃ dotted, '=' ∉ dotted.toList ∧ Text.trim dotted = tool.settingKey (Text.trim name)) := by
  refine ⟨fun some good => ?_, fun bad => ?_, fun leads name => leads.asks_same,
    fun name dotted undivided bare undivided' dot _ _ _ _ =>
      Tool.asks_same_iff undivided bare undivided' dot, fun name => Tool.leads_iff⟩
  · have good : ∀ argument ∈ view.arguments, (tool.assignment? argument).isSome := by
      intro argument member
      rw [Option.isSome_iff_ne_none, Ne, Tool.assignment?_eq_none_iff]
      exact not_not_intro (good argument member)
    obtain ⟨t, ran, seen⟩ := host.run_set tool seen (host.memory view s settings seen memory) some good
    have fine : view.store.fault? (view.arguments.filterMap tool.assignment?) = none :=
      memory ▸ fault?_asked view.arguments
    rw [fine] at ran
    rw [Store.accepted_of_fault?_none fine, memory, Store.bindAll_memory] at seen
    have order := (Store.memory settings).boundInOrder (view.arguments.filterMap tool.assignment?)
    rw [Store.bindAll_memory] at order
    refine ⟨_, bound settings _, t, forall₂_asks good, ran, ?_, order⟩
    simpa [Tool.pairLine, String.append_assoc] using seen
  · simp only [← tool.assignment?_eq_none_iff] at bad
    obtain ⟨t, ran, seen⟩ := host.set_aborted tool seen bad
    have same : (fun argument => (tool.assignment? argument).isNone) =
        fun argument => decide ('=' ∉ argument.toList) := by
      funext argument
      rw [Bool.eq_iff_iff, Option.isNone_iff_eq_none, Tool.assignment?_eq_none_iff, decide_eq_true_iff]
    rw [same] at ran
    exact ⟨t, ran, seen⟩

theorem set_effect_respelled :
    let tool : Tool := { key := "volt" }
    let settings : KeyMap String := .ofList [("volt.port", "1")]
    let arguments := ["user = a", "volt.user=b=c ", "x.y=1"]
    (∃ t, tool.set.run Recorder.runner (recorderOf arguments settings) = (.done (), t) ∧
      t.output = "" ++ "set volt.user=a\nset volt.user=b=c\nset x.y=1\n" ∧
      t.settings.get? "volt.user" = some "b=c" ∧ t.settings.get? "volt.port" = some "1") ∧
    ∃ t, tool.set.run Recorder.runner (recorderOf ["a=1", "b", "=c", "d"] settings) =
        (.failed (.aborted "Bad arguments (must be KEY=VALUE format):" ["b", "d"]), t) ∧
      t.settings = settings ∧ t.output = "" := by
  intro tool settings arguments
  have seen (arguments : List String) : recordedStore ⟨arguments, .memory settings, True, ""⟩
      (recorderOf arguments settings) := ⟨arguments_recorderOf arguments settings, rfl, trivial, rfl⟩
  constructor
  · obtain ⟨good, -⟩ := set_effect recorder_storeHost tool (seen arguments) rfl
    obtain ⟨pairs, after, t, asks, ran, ⟨-, store, -, output⟩, order⟩ :=
      good (by decide) (by decide)
    obtain rfl : after = t.settings := Store.memory.inj store
    obtain rfl := filterMap_of_asks asks
    have asked : arguments.filterMap tool.assignment? =
        [("volt.user", "a"), ("volt.user", "b=c"), ("x.y", "1")] := by decide +kernel
    have lines : printed ([("volt.user", "a"), ("volt.user", "b=c"), ("x.y", "1")].map
        fun pair => "set " ++ pair.1 ++ "=" ++ pair.2) =
          "set volt.user=a\nset volt.user=b=c\nset x.y=1\n" := by decide +kernel
    rw [asked] at output order
    have last := order.last [("volt.user", "a")] ("volt.user", "b=c") [("x.y", "1")] rfl (by decide)
    have kept := order.kept "volt.port" (by decide)
    exact ⟨t, ran, output.trans (congrArg ("" ++ ·) lines), last, kept.trans (by decide +kernel)⟩
  · obtain ⟨-, bad, -⟩ := set_effect recorder_storeHost tool (seen ["a=1", "b", "=c", "d"]) rfl
    obtain ⟨t, ran, -, store, -, output⟩ := bad (.inr ⟨"b", by decide, by decide⟩)
    have wrong : ["a=1", "b", "=c", "d"].filter ('=' ∉ ·.toList) = ["b", "d"] := by decide
    rw [wrong] at ran
    exact ⟨t, ran, (Store.memory.inj store).symm, output⟩

end CommandVerbs.Config
