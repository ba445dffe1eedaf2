import CommandVerbs.Proofs.Config.Commands
import CommandVerbs.Proofs.KeyMap
import CommandVerbs.Proofs.Text.Trimming

/-! What loading the properties of a tool finds and what it leaves in the settings. Distinct properties
have distinct keys, so what is saved for one is never read for another, and each is judged by the
settings before the loading. -/
namespace CommandVerbs.Config

/-- A host that is also asked for single settings and takes diagnostics, neither of which shows. -/
structure LoadingHost {σ : Type} (runner : Runner σ) (rep : View → σ → Prop) : Prop
    extends SettingsHost runner rep where
  looked : ∀ view s key, rep view s →
    (runner (.getSetting key) s).1 = view.settings.get? key ∧ rep view (runner (.getSetting key) s).2
  reported : ∀ view s diagnostic, rep view s → rep view (runner (.report diagnostic) s).2

theorem recorder_loadingHost : LoadingHost Recorder.runner recorded where
  toSettingsHost := recorder_host
  looked := by
    rintro _ r key rfl
    exact ⟨rfl, rfl⟩
  reported := by
    rintro _ r diagnostic rfl
    rfl

theorem session_loadingHost {κ τ : Type} (launcher : Launcher)
    (help : List String → Bool → Except Fault String)
    (package : PackageRequest → World τ → Except Fault (List String) × World τ)
    (port : World.Port κ τ) :
    LoadingHost (Session.runner (World.adapters launcher help package port)) inSession where
  toSettingsHost := session_host launcher help package port
  looked := by
    rintro view s key ⟨same, store, output⟩
    exact ⟨congrArg (·.get? key) store, same, store, output⟩
  reported := by
    rintro view s diagnostic shown
    exact shown

namespace Tool

/-- A property counts as unset when the settings are reset or hold nothing under its key. -/
def Unset (tool : Tool) (settings : KeyMap String) (reset : Bool) (name : String) : Prop :=
  reset = true ∨ (settings.get? (tool.settingKey name)).getD "" = ""

instance (tool : Tool) (settings : KeyMap String) (reset : Bool) (name : String) :
    Decidable (tool.Unset settings reset name) :=
  inferInstanceAs (Decidable (_ ∨ _))

/-- What loading finds out about a property. -/
def found (tool : Tool) (settings : KeyMap String) (reset : Bool) (entry : String × Property) :
    String × Finding :=
  (entry.1,
    if tool.Unset settings reset entry.1 then
      match entry.2.default with
      | some value => .defaulted value
      | none => .missing
    else .set ((settings.get? (tool.settingKey entry.1)).getD ""))

/-- What is saved for a property that is unset. -/
def initial (tool : Tool) (entry : String × Property) : String × String :=
  (tool.settingKey entry.1, entry.2.default.getD "")

/-- The settings once a property has been loaded. -/
def settled (tool : Tool) (reset : Bool) (settings : KeyMap String) (entry : String × Property) :
    KeyMap String :=
  if tool.Unset settings reset entry.1 then
    settings.insert (tool.settingKey entry.1) (entry.2.default.getD "")
  else settings

variable {tool : Tool} {settings others : KeyMap String} {reset : Bool} {name other key : String}
  {entry : String × Property} {entries : List (String × Property)}

theorem unset_congr
    (same : others.get? (tool.settingKey name) = settings.get? (tool.settingKey name)) :
    tool.Unset others reset name ↔ tool.Unset settings reset name := by
  rw [Unset, same, Unset]

theorem found_congr
    (same : others.get? (tool.settingKey entry.1) = settings.get? (tool.settingKey entry.1)) :
    tool.found others reset entry = tool.found settings reset entry := by
  simp only [found, unset_congr same, same]

theorem settingKey_inj : tool.settingKey name = tool.settingKey other ↔ name = other := by
  rw [← String.toList_inj, toList_settingKey, toList_settingKey, List.append_right_inj,
    List.cons_inj_right, String.toList_inj]

theorem settingKey_named (tool : Tool) (name : String) : Text.trim (tool.settingKey name) ≠ "" := by
  have dotted : '.' ∈ (tool.settingKey name).toList := by simp [toList_settingKey]
  have left : Text.trimChars (tool.settingKey name).toList ≠ [] :=
    Text.trimChars_ne_nil dotted (by decide)
  simpa [Text.trim] using left

/-- The stored value that counts. -/
theorem filter_get? (tool : Tool) (settings : KeyMap String) (reset : Bool) (name : String) :
    (settings.get? (tool.settingKey name)).filter (fun value => value != "" && !reset) =
      if tool.Unset settings reset name then none
      else some ((settings.get? (tool.settingKey name)).getD "") := by
  have counts : ∀ stored : Option String, stored.filter (fun value => value != "" && !reset) =
      if reset = true ∨ stored.getD "" = "" then none else some (stored.getD "") := by
    intro stored
    cases stored with
    | none => simp
    | some value => cases reset <;> by_cases empty : value = "" <;> simp [empty]
  exact (counts _).trans (if_congr Iff.rfl rfl rfl)

/-- Once the value of a property is known, loading it comes to saving what stands for it, or to nothing. -/
theorem run_settle {σ : Type} {runner : Runner σ} {s : σ}
    (looked : (runner (.getSetting (tool.settingKey entry.1)) s).1 =
      settings.get? (tool.settingKey entry.1)) :
    (tool.settle reset entry).run runner s =
      (if tool.Unset settings reset entry.1 then
          Script.setSetting (tool.initial entry).1 (tool.initial entry).2 >>= fun _ =>
            .done (tool.found settings reset entry)
        else .done (tool.found settings reset entry)).run runner
          (runner (.getSetting (tool.settingKey entry.1)) s).2 := by
  obtain ⟨name, property⟩ := entry
  simp only [settle, Script.run_bind, Script.getSetting, Script.request, Script.run, looked, filter_get?,
    found, initial]
  by_cases unset : tool.Unset settings reset name
  · simp only [if_pos unset]
    cases property.default <;> simp only [Script.run_bind] <;> rfl
  · simp only [if_neg unset]
    rfl

theorem get?_settled_same (settings : KeyMap String) (reset : Bool) (entry : String × Property) :
    (tool.settled reset settings entry).get? (tool.settingKey entry.1) =
      if tool.Unset settings reset entry.1 then some (entry.2.default.getD "")
      else settings.get? (tool.settingKey entry.1) := by
  unfold settled
  split
  · exact KeyMap.get?_insert_same _ _ _
  · rfl

theorem get?_settled_other (different : key ≠ tool.settingKey entry.1) :
    (tool.settled reset settings entry).get? key = settings.get? key := by
  unfold settled
  split
  · exact KeyMap.get?_insert_other _ _ different
  · rfl

theorem get?_settled_property (different : other ≠ entry.1) :
    (tool.settled reset settings entry).get? (tool.settingKey other) =
      settings.get? (tool.settingKey other) :=
  get?_settled_other fun same => different (settingKey_inj.mp same)

theorem unset_settled (different : other ≠ entry.1) :
    tool.Unset (tool.settled reset settings entry) reset other ↔ tool.Unset settings reset other :=
  unset_congr (get?_settled_property different)

theorem found_settled (different : other ≠ entry.1) (property : Property) :
    tool.found (tool.settled reset settings entry) reset (other, property) =
      tool.found settings reset (other, property) :=
  found_congr (get?_settled_property different)

theorem get?_foldl_settled_other (apart : ∀ entry ∈ entries, key ≠ tool.settingKey entry.1) :
    (entries.foldl (tool.settled reset) settings).get? key = settings.get? key := by
  induction entries generalizing settings with
  | nil => rfl
  | cons entry rest ih =>
    obtain ⟨different, apart⟩ := List.forall_mem_cons.mp apart
    rw [List.foldl_cons, ih apart, get?_settled_other different]

/-- What is left under the key of a property comes from that property alone. -/
theorem get?_foldl_settled (distinct : (entries.map (·.1)).Nodup) (member : entry ∈ entries) :
    (entries.foldl (tool.settled reset) settings).get? (tool.settingKey entry.1) =
      if tool.Unset settings reset entry.1 then some (entry.2.default.getD "")
      else settings.get? (tool.settingKey entry.1) := by
  induction entries generalizing settings with
  | nil => exact absurd member List.not_mem_nil
  | cons first rest ih =>
    obtain ⟨fresh, distinct⟩ := List.nodup_cons.mp distinct
    rw [List.foldl_cons]
    rcases List.mem_cons.mp member with rfl | later
    · have apart : ∀ other ∈ rest, tool.settingKey entry.1 ≠ tool.settingKey other.1 :=
        fun other inside same =>
          fresh (List.mem_map.mpr ⟨other, inside, (settingKey_inj.mp same).symm⟩)
      rw [get?_foldl_settled_other apart, get?_settled_same]
    · have different : entry.1 ≠ first.1 := fun same => fresh (List.mem_map.mpr ⟨entry, later, same⟩)
      rw [ih distinct later, get?_settled_property different]
      exact if_congr (unset_settled different) rfl rfl

theorem get?_settledAll {property : Property} (declared : tool.properties.get? name = some property) :
    (tool.properties.toList.foldl (tool.settled reset) settings).get? (tool.settingKey name) =
      if tool.Unset settings reset name then some (property.default.getD "")
      else settings.get? (tool.settingKey name) :=
  get?_foldl_settled tool.properties.keys_nodup (KeyMap.mem_toList_iff.mpr declared)

/-! ## What is found -/

/-- The names of what is picked from the findings are those of the properties it is picked for. -/
theorem names_picked {β : Type} {pick : String × Finding → Option β} {nameOf : β → String}
    {keep : String × Property → Bool} (picks : ∀ entry,
      (pick (tool.found settings reset entry)).map nameOf = if keep entry then some entry.1 else none)
    (entries : List (String × Property)) :
    ((entries.map (tool.found settings reset)).filterMap pick).map nameOf =
      (entries.filter keep).map (·.1) := by
  rw [List.filterMap_map, List.map_filterMap]
  simp only [Function.comp_apply, picks]
  induction entries with
  | nil => rfl
  | cons entry rest ih => by_cases kept : keep entry <;> simp [kept, ih]

theorem missing_summarize (tool : Tool) (settings : KeyMap String) (reset : Bool)
    (entries : List (String × Property)) :
    (tool.summarize reset (entries.map (tool.found settings reset))).missing =
      (entries.filter fun entry => tool.Unset settings reset entry.1 && entry.2.default.isNone).map
        (·.1) := by
  have picks : ∀ entry, (missingOf? (tool.found settings reset entry)).map id =
      if tool.Unset settings reset entry.1 && entry.2.default.isNone then some entry.1 else none := by
    intro entry
    by_cases unset : tool.Unset settings reset entry.1 <;> cases given : entry.2.default <;>
      simp [found, missingOf?, unset, given]
  have names := names_picked picks entries
  rwa [List.map_id] at names

theorem defaulted_summarize (tool : Tool) (settings : KeyMap String) (reset : Bool)
    (entries : List (String × Property)) :
    (tool.summarize reset (entries.map (tool.found settings reset))).defaulted =
      (entries.filter fun entry => tool.Unset settings reset entry.1 && entry.2.default.isSome).map
        (·.1) := by
  refine names_picked (fun entry => ?_) entries
  by_cases unset : tool.Unset settings reset entry.1 <;> cases given : entry.2.default <;>
    simp [found, defaultOf?, unset, given]

theorem ascending_filter (properties : KeyMap Property) (keep : String × Property → Bool) :
    ((properties.toList.filter keep).map (·.1)).Pairwise (· < ·) :=
  List.pairwise_map.mpr (properties.ascending.filter keep)

theorem mem_filter {properties : KeyMap Property} {keep : String × Property → Bool} :
    name ∈ (properties.toList.filter keep).map (·.1) ↔
      ∃ property, properties.get? name = some property ∧ keep (name, property) := by
  simp [List.mem_map, List.mem_filter, KeyMap.mem_toList_iff]

theorem mem_missing_iff : name ∈ (tool.summarize reset
      (tool.properties.toList.map (tool.found settings reset))).missing ↔ ∃ property,
    tool.properties.get? name = some property ∧ tool.Unset settings reset name ∧
      property.default = none := by
  rw [missing_summarize, mem_filter]
  simp

theorem mem_defaulted_iff : name ∈ (tool.summarize reset
      (tool.properties.toList.map (tool.found settings reset))).defaulted ↔ ∃ property,
    tool.properties.get? name = some property ∧ tool.Unset settings reset name ∧
      property.default ≠ none := by
  rw [defaulted_summarize, mem_filter]
  simp [Option.isSome_iff_ne_none]

/-- The value that a property has once it is loaded. -/
def loadedValue? (tool : Tool) (settings : KeyMap String) (reset : Bool) (entry : String × Property) :
    Option String :=
  if tool.Unset settings reset entry.1 then entry.2.default
  else settings.get? (tool.settingKey entry.1)

theorem valueOf?_found (tool : Tool) (settings : KeyMap String) (reset : Bool)
    (entry : String × Property) : valueOf? (tool.found settings reset entry) =
      (tool.loadedValue? settings reset entry).map (entry.1, ·) := by
  by_cases unset : tool.Unset settings reset entry.1
  · cases given : entry.2.default <;> simp [found, valueOf?, loadedValue?, unset, given]
  · have held : settings.get? (tool.settingKey entry.1) ≠ none :=
      fun none => unset (.inr (by rw [none]; rfl))
    obtain ⟨value, held⟩ := Option.ne_none_iff_exists'.mp held
    simp [found, valueOf?, loadedValue?, unset, held]

theorem get?_ofList_values (tool : Tool) (settings : KeyMap String) (reset : Bool)
    (properties : KeyMap Property) (name : String) :
    (KeyMap.ofList ((properties.toList.map (tool.found settings reset)).filterMap valueOf?)).get? name =
      (properties.get? name).bind fun property => tool.loadedValue? settings reset (name, property) := by
  have distinct : (((properties.toList.map (tool.found settings reset)).filterMap valueOf?).map
      (·.1)).Nodup := by
    have picks : ∀ entry, (valueOf? (tool.found settings reset entry)).map (·.1) =
        if (tool.loadedValue? settings reset entry).isSome then some entry.1 else none := by
      intro entry
      rw [valueOf?_found]
      cases tool.loadedValue? settings reset entry <;> rfl
    rw [names_picked picks]
    exact properties.keys_nodup.sublist (List.filter_sublist.map _)
  ext value
  rw [KeyMap.get?_ofList distinct]
  simp [List.mem_filterMap, valueOf?_found, KeyMap.mem_toList_iff, Option.bind_eq_some_iff]

/-- What loading reports of the properties and leaves in the settings, by what was in them before. -/
structure LoadedFrom (tool : Tool) (reset : Bool) (before after : KeyMap String)
    (loaded : Loaded) : Prop where
  missing_ascending : loaded.missing.Pairwise (· < ·)
  mem_missing : ∀ name, name ∈ loaded.missing ↔ ∃ property,
    tool.properties.get? name = some property ∧ tool.Unset before reset name ∧ property.default = none
  defaulted_ascending : loaded.defaulted.Pairwise (· < ·)
  mem_defaulted : ∀ name, name ∈ loaded.defaulted ↔ ∃ property,
    tool.properties.get? name = some property ∧ tool.Unset before reset name ∧ property.default ≠ none
  /-- there are values when nothing was reset and nothing is missing -/
  complete : loaded.values.isSome ↔ reset = false ∧ loaded.missing = []
  values : ∀ values, loaded.values = some values → ∀ name, values.get? name =
    (tool.properties.get? name).bind fun property =>
      if tool.Unset before reset name then property.default else before.get? (tool.settingKey name)
  emptied : ∀ name ∈ loaded.missing, after.get? (tool.settingKey name) = some ""
  saved : ∀ name ∈ loaded.defaulted,
    after.get? (tool.settingKey name) = (tool.properties.get? name).bind (·.default)
  /-- no other key has changed -/
  kept : ∀ key, (∀ name, name ∈ loaded.missing ∨ name ∈ loaded.defaulted → key ≠ tool.settingKey name) →
    after.get? key = before.get? key

theorem loadedFrom_summarize (tool : Tool) (reset : Bool) (settings : KeyMap String) :
    tool.LoadedFrom reset settings (tool.properties.toList.foldl (tool.settled reset) settings)
      (tool.summarize reset (tool.properties.toList.map (tool.found settings reset))) where
  missing_ascending := by
    rw [missing_summarize]
    exact ascending_filter _ _
  mem_missing _ := mem_missing_iff
  defaulted_ascending := by
    rw [defaulted_summarize]
    exact ascending_filter _ _
  mem_defaulted _ := mem_defaulted_iff
  complete := by
    simp only [summarize]
    cases reset <;> simp
  values values given name := by
    have made : values = .ofList
        ((tool.properties.toList.map (tool.found settings reset)).filterMap valueOf?) := by
      simp only [summarize] at given
      split at given
      · exact (Option.some.inj given).symm
      · contradiction
    rw [made, get?_ofList_values]
    rfl
  emptied name member := by
    obtain ⟨property, declared, unset, none⟩ := mem_missing_iff.mp member
    rw [get?_settledAll declared, if_pos unset, none, Option.getD_none]
  saved name member := by
    obtain ⟨property, declared, unset, some⟩ := mem_defaulted_iff.mp member
    obtain ⟨value, given⟩ := Option.ne_none_iff_exists'.mp some
    rw [get?_settledAll declared, if_pos unset, declared, given, Option.getD_some, Option.bind_some,
      given]
  kept key apart := by
    by_cases under : ∃ name property, tool.properties.get? name = some property ∧
        key = tool.settingKey name
    · obtain ⟨name, property, declared, rfl⟩ := under
      rw [get?_settledAll declared]
      refine if_neg fun unset => ?_
      cases given : property.default with
      | none => exact apart name (.inl (mem_missing_iff.mpr ⟨property, declared, unset, given⟩)) rfl
      | some value =>
        have defaulted := mem_defaulted_iff.mpr ⟨property, declared, unset, by simp [given]⟩
        exact apart name (.inr defaulted) rfl
    · refine get?_foldl_settled_other fun entry member same => under ?_
      exact ⟨entry.1, entry.2, KeyMap.mem_toList_iff.mp member, same⟩

end Tool

namespace LoadingHost

variable {σ : Type} {runner : Runner σ} {rep : View → σ → Prop} {view : View} {s : σ}
  (host : LoadingHost runner rep)
include host

theorem run_settle (tool : Tool) (reset : Bool) (entry : String × Property) (seen : rep view s) :
    ∃ t, (tool.settle reset entry).run runner s =
        (.done (tool.found view.settings reset entry), t) ∧
      rep { view with settings := tool.settled reset view.settings entry } t := by
  obtain ⟨looked, seen⟩ := host.looked view s (tool.settingKey entry.1) seen
  rw [Tool.run_settle looked, Tool.settled]
  by_cases unset : tool.Unset view.settings reset entry.1
  · have named : Text.trim (tool.initial entry).1 ≠ "" := tool.settingKey_named entry.1
    obtain ⟨t, saved, seen⟩ := host.run_setSetting (tool.initial entry).2 seen named
    rw [if_pos unset, if_pos unset]
    refine ⟨t, ?_, seen⟩
    rw [Script.run_bind, saved]
    rfl
  · rw [if_neg unset, if_neg unset]
    exact ⟨_, rfl, seen⟩

/-- Every property is judged by the settings before the first one is loaded. -/
theorem run_settleAll (tool : Tool) (reset : Bool) {entries : List (String × Property)}
    (distinct : (entries.map (·.1)).Nodup) (seen : rep view s) :
    ∃ t, (entries.mapM (tool.settle reset)).run runner s =
        (.done (entries.map (tool.found view.settings reset)), t) ∧
      rep { view with settings := entries.foldl (tool.settled reset) view.settings } t := by
  induction entries generalizing view s with
  | nil => exact ⟨s, rfl, seen⟩
  | cons entry rest ih =>
    obtain ⟨fresh, distinct⟩ := List.nodup_cons.mp distinct
    obtain ⟨u, first, seen⟩ := host.run_settle tool reset entry seen
    obtain ⟨t, later, seen⟩ := ih distinct seen
    refine ⟨t, ?_, seen⟩
    have same : rest.map (tool.found (tool.settled reset view.settings entry) reset) =
        rest.map (tool.found view.settings reset) := by
      refine List.map_congr_left fun other member => ?_
      have different : other.1 ≠ entry.1 := fun same => fresh (List.mem_map.mpr ⟨other, member, same⟩)
      exact Tool.found_settled different other.2
    simp only [same] at later
    rw [List.mapM_cons, Script.run_bind, first]
    simp only [Script.run_bind, later]
    rfl

/-- Loading succeeds with a report of all properties. It changes nothing but the settings of those
that are unset. -/
theorem run_load (tool : Tool) (reset : Bool) (seen : rep view s) :
    ∃ t, (tool.load reset).run runner s = (.done (tool.summarize reset
        (tool.properties.toList.map (tool.found view.settings reset))), t) ∧
      rep { view with
        settings := tool.properties.toList.foldl (tool.settled reset) view.settings } t := by
  obtain ⟨u, settled, seen⟩ := host.run_settleAll tool reset tool.properties.keys_nodup seen
  refine ⟨_, ?_, host.reported _ u .propertiesLoaded seen⟩
  rw [Tool.load, Script.run_bind, settled]
  rfl

end LoadingHost

/-- Loading the properties of a tool always succeeds, and its report and the settings that it leaves
follow from the settings before. -/
theorem load_reports {σ : Type} {runner : Runner σ} {rep : View → σ → Prop}
    (host : LoadingHost runner rep) (tool : Tool) (reset : Bool) {view : View} {s : σ}
    (seen : rep view s) :
    ∃ loaded after t, (tool.load reset).run runner s = (.done loaded, t) ∧
      rep { view with settings := after } t ∧
      tool.LoadedFrom reset view.settings after loaded := by
  obtain ⟨t, ran, left⟩ := host.run_load tool reset seen
  exact ⟨_, _, t, ran, left, tool.loadedFrom_summarize reset view.settings⟩

theorem load_reports_mixed :
    let port : Property := { description := "Server port", default := some "21212" }
    let properties : KeyMap Property :=
      .ofList [("home", ⟨"Directory", none⟩), ("port", port), ("user", ⟨"Login name", none⟩)]
    let tool : Tool := { key := "volt", properties }
    let settings : KeyMap String := .ofList [("volt.home", "/v"), ("volt.port", ""), ("x.y", "1")]
    ∃ loaded t, (tool.load false).run Recorder.runner (recorderOf [] settings) = (.done loaded, t) ∧
      "user" ∈ loaded.missing ∧ "port" ∈ loaded.defaulted ∧ loaded.values = none ∧
      t.settings.get? "volt.user" = some "" ∧ t.settings.get? "volt.port" = some "21212" ∧
      t.settings.get? "x.y" = some "1" := by
  intro port properties tool settings
  obtain ⟨loaded, after, t, ran, left, report⟩ :=
    load_reports recorder_loadingHost tool false (s := recorderOf [] settings) rfl
  obtain rfl : after = t.settings := congrArg View.settings left
  have missing : "user" ∈ loaded.missing :=
    (report.mem_missing "user").mpr ⟨⟨"Login name", none⟩, by decide +kernel, by decide +kernel, rfl⟩
  have defaulted : "port" ∈ loaded.defaulted :=
    (report.mem_defaulted "port").mpr ⟨port, by decide +kernel, by decide +kernel, by decide⟩
  have incomplete : ¬loaded.values.isSome := fun complete =>
    List.ne_nil_of_mem missing (report.complete.mp complete).2
  have other : t.settings.get? "x.y" = some "1" := by
    refine (report.kept "x.y" fun name _ same => ?_).trans (by decide +kernel)
    have chars := congrArg String.toList same
    rw [toList_settingKey] at chars
    have start : tool.key.toList <+: "x.y".toList := chars ▸ List.prefix_append _ _
    exact absurd start (by decide +kernel)
  exact ⟨loaded, t, ran, missing, defaulted, by simpa using incomplete, report.emptied _ missing,
    (report.saved _ defaulted).trans (by decide +kernel), other⟩

end CommandVerbs.Config
