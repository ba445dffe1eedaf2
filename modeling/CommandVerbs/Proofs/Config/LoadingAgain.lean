import CommandVerbs.Proofs.Config.ConfiguredCatalog
import CommandVerbs.Proofs.Config.StoreLoading

/-! Loading and resetting a second time. What loading has saved is found by the next loading, which
saves the same values or none, as long as no two properties share a key. A reset leaves nothing of what
the properties were before, so that every reset says and leaves the same. -/
namespace CommandVerbs.Config

variable {tool : Tool} {store left : Store} {reset : Bool} {entry : String × Property}
  {settings : KeyMap String}

namespace Tool

/-- The properties are saved under different keys. A file has the keys trimmed, so that names which
differ only by blanks at their ends share a key there. -/
def KeysApart (tool : Tool) (store : Store) : Prop :=
  ∀ first ∈ tool.properties.toList, ∀ second ∈ tool.properties.toList,
    store.stored (tool.settingKey first.1) = store.stored (tool.settingKey second.1) → first.1 = second.1

theorem keysApart_memory (tool : Tool) (settings : KeyMap String) :
    tool.KeysApart (.memory settings) :=
  fun _ _ _ _ same => settingKey_inj.mp same

theorem keysApart_of_trimmed (store : Store) (trimmed : ∀ entry ∈ tool.properties.toList,
      Text.trim (tool.settingKey entry.1) = tool.settingKey entry.1) : tool.KeysApart store := by
  intro first inside second within same
  cases store with
  | memory => exact settingKey_inj.mp same
  | file =>
    rw [Store.stored, Store.stored, trimmed first inside, trimmed second within] at same
    exact settingKey_inj.mp same

theorem mem_dueIn_iff {pair : String × String} : pair ∈ tool.dueIn store reset ↔
    ∃ entry ∈ tool.properties.toList, tool.Unset store.pairs reset entry.1 ∧ tool.initial entry = pair := by
  simp [dueIn, due, and_assoc]

namespace KeysApart

variable (apart : tool.KeysApart store)
include apart

theorem nodup_dueIn (reset : Bool) :
    ((tool.dueIn store reset).map fun pair => store.stored pair.1).Nodup := by
  have all : ((tool.properties.toList.map tool.initial).map fun pair => store.stored pair.1).Nodup := by
    rw [List.map_map]
    refine List.Nodup.map_on (fun first inside second within same => ?_)
      (List.Nodup.of_map _ tool.properties.keys_nodup)
    exact List.inj_on_of_nodup_map tool.properties.keys_nodup inside within
      (apart first inside second within same)
  exact all.sublist ((tool.due_sublist store.pairs reset tool.properties.toList).map _)

theorem get?_loaded_unset (member : entry ∈ tool.properties.toList)
    (unset : tool.Unset store.pairs reset entry.1) :
    (store.bindAll (tool.dueIn store reset)).get? (store.stored (tool.settingKey entry.1)) =
      some (entry.2.default.getD "") :=
  (store.boundInOrder _).stays (apart.nodup_dueIn reset)
    (mem_dueIn_iff.mpr ⟨entry, member, unset, rfl⟩)

theorem get?_loaded_set (member : entry ∈ tool.properties.toList)
    (set : ¬tool.Unset store.pairs reset entry.1) :
    (store.bindAll (tool.dueIn store reset)).get? (store.stored (tool.settingKey entry.1)) =
      store.get? (store.stored (tool.settingKey entry.1)) := by
  refine (store.boundInOrder _).kept _ fun pair due same => ?_
  obtain ⟨other, inside, unset, rfl⟩ := mem_dueIn_iff.mp due
  exact set (apart other inside entry member same ▸ unset)

theorem get?_loaded (member : entry ∈ tool.properties.toList) (reset : Bool) :
    (store.bindAll (tool.dueIn store reset)).get? (tool.settingKey entry.1) =
      if tool.Unset store.pairs reset entry.1 ∧
          store.stored (tool.settingKey entry.1) = tool.settingKey entry.1 then
        some (entry.2.default.getD "")
      else store.get? (tool.settingKey entry.1) := by
  by_cases plain : store.stored (tool.settingKey entry.1) = tool.settingKey entry.1
  · by_cases unset : tool.Unset store.pairs reset entry.1
    · rw [if_pos ⟨unset, plain⟩, ← plain]
      simpa [plain] using apart.get?_loaded_unset member unset
    · rw [if_neg fun both => unset both.1]
      simpa [plain] using apart.get?_loaded_set member unset
  · -- a key with blanks at its ends is never bound
    rw [if_neg fun both => plain both.2]
    refine (store.boundInOrder _).kept _ fun pair _ same => plain ?_
    rw [← same, store.stored_stored]

/-- No property that was set is unset after loading. -/
theorem unset_of_unset_loaded (member : entry ∈ tool.properties.toList)
    (unset : tool.Unset (store.bindAll (tool.dueIn store false)).pairs false entry.1) :
    tool.Unset store.pairs false entry.1 := by
  by_contra set
  have same := apart.get?_loaded member false
  rw [if_neg fun both => set both.1] at same
  exact set ((unset_congr same).mp unset)

/-- What is due after loading was due before, and is there. -/
theorem due_again {pair : String × String}
    (due : pair ∈ tool.dueIn (store.bindAll (tool.dueIn store false)) false) :
    pair ∈ tool.dueIn store false ∧
      (store.bindAll (tool.dueIn store false)).get? (store.stored pair.1) = some pair.2 := by
  obtain ⟨entry, member, unset, rfl⟩ := mem_dueIn_iff.mp due
  have before := apart.unset_of_unset_loaded member unset
  exact ⟨mem_dueIn_iff.mpr ⟨entry, member, before, rfl⟩, apart.get?_loaded_unset member before⟩

theorem bindAll_again :
    let left := store.bindAll (tool.dueIn store false)
    left.bindAll (tool.dueIn left false) = left := by
  intro left
  refine Store.bindAll_present fun pair due => ?_
  rw [Store.stored_bindAll]
  exact (apart.due_again due).2

theorem missing_again (member : entry ∈ tool.properties.toList) :
    let left := store.bindAll (tool.dueIn store false)
    tool.Unset left.pairs false entry.1 ∧ entry.2.default = none ↔
      tool.Unset store.pairs false entry.1 ∧ entry.2.default = none := by
  intro left
  refine and_congr_left fun none => ⟨apart.unset_of_unset_loaded member, fun unset => .inr ?_⟩
  have found : left.pairs.get? (tool.settingKey entry.1) = _ := apart.get?_loaded member false
  rw [found]
  split
  · rw [none]
    rfl
  · exact unset.resolve_left (by simp)

theorem loadedValue?_again (member : entry ∈ tool.properties.toList) :
    let left := store.bindAll (tool.dueIn store false)
    tool.loadedValue? left.pairs false entry = tool.loadedValue? store.pairs false entry := by
  intro left
  have found : left.pairs.get? (tool.settingKey entry.1) = _ := apart.get?_loaded member false
  by_cases saved : tool.Unset store.pairs false entry.1 ∧
      store.stored (tool.settingKey entry.1) = tool.settingKey entry.1
  · rw [if_pos saved] at found
    have before : tool.loadedValue? store.pairs false entry = entry.2.default := if_pos saved.1
    rw [before]
    simp only [loadedValue?, Unset, found]
    cases entry.2.default with
    | none => simp
    | some value => by_cases empty : value = "" <;> simp [empty]
  · rw [if_neg saved] at found
    simp only [loadedValue?, unset_congr found, found]
    rfl

/-- Loading again reports the same values, if any, and the same missing properties. -/
theorem report_again :
    let again := tool.report (store.bindAll (tool.dueIn store false)) false
    again.values = (tool.report store false).values ∧
      again.missing = (tool.report store false).missing := by
  intro again
  have missing : again.missing = (tool.report store false).missing := by
    refine (missing_summarize tool _ false _).trans (Eq.trans ?_ (missing_summarize tool _ false _).symm)
    refine congrArg _ (List.filter_congr fun entry member => ?_)
    rw [Bool.eq_iff_iff, Bool.and_eq_true, Bool.and_eq_true, decide_eq_true_iff, decide_eq_true_iff,
      Option.isNone_iff_eq_none]
    exact apart.missing_again member
  have values : (tool.properties.toList.map (tool.found
        (store.bindAll (tool.dueIn store false)).pairs false)).filterMap valueOf? =
      (tool.properties.toList.map (tool.found store.pairs false)).filterMap valueOf? := by
    rw [List.filterMap_map, List.filterMap_map]
    refine List.filterMap_congr fun entry member => ?_
    rw [Function.comp_apply, valueOf?_found, apart.loadedValue?_again member, ← valueOf?_found]
    rfl
  refine ⟨?_, missing⟩
  change (if _ && again.missing.isEmpty then _ else _) =
    if _ && (tool.report store false).missing.isEmpty then _ else _
  rw [missing, values]

end KeysApart

/-! ## What a reset leaves -/

/-- The settings that a reset leaves where there were none. -/
def initially (tool : Tool) : Store :=
  (Store.memory .empty).bindAll (tool.dueIn (.memory .empty) true)

/-- What a reset prints, whatever was set before. -/
def resetText (tool : Tool) : String :=
  clearing ++ printed (tool.report (.memory .empty) true).lines ++
    printed (tool.report tool.initially false).lines

theorem report_congr (same : ∀ entry ∈ tool.properties.toList,
      left.get? (tool.settingKey entry.1) = store.get? (tool.settingKey entry.1)) (reset : Bool) :
    tool.report left reset = tool.report store reset :=
  congrArg _ (List.map_congr_left fun entry member => found_congr (same entry member))

theorem report_reset (tool : Tool) (store left : Store) :
    tool.report left true = tool.report store true :=
  congrArg (tool.summarize true) (List.map_congr_left fun _ _ => by simp [found, Unset])

theorem get?_reset (settings : KeyMap String) (member : entry ∈ tool.properties.toList) :
    ((Store.memory settings).bindAll (tool.dueIn (.memory settings) true)).get?
      (tool.settingKey entry.1) = some (entry.2.default.getD "") :=
  (tool.keysApart_memory settings).get?_loaded_unset member (.inl rfl)

/-- The settings after a reset: those of the properties are put back, and all others are kept. -/
structure PutBack (tool : Tool) (before after : KeyMap String) : Prop where
  back : ∀ name property, tool.properties.get? name = some property →
    after.get? (tool.settingKey name) = some (property.default.getD "")
  kept : ∀ key, (∀ name property, tool.properties.get? name = some property →
    key ≠ tool.settingKey name) → after.get? key = before.get? key

theorem putBack (tool : Tool) (settings : KeyMap String) :
    tool.PutBack settings (bound settings (tool.dueIn (.memory settings) true)) where
  back name property declared := by
    have found := get?_reset settings (KeyMap.mem_toList_iff.mpr declared)
    rwa [Store.bindAll_memory] at found
  kept key apart := by
    have kept := ((Store.memory settings).boundInOrder (tool.dueIn (.memory settings) true)).kept key
    rw [Store.bindAll_memory] at kept
    refine kept fun pair due same => ?_
    obtain ⟨entry, member, -, rfl⟩ := mem_dueIn_iff.mp due
    exact apart entry.1 entry.2 (KeyMap.mem_toList_iff.mp member) same.symm

/-- A loading after a reset saves nothing new. -/
theorem bindAll_after_reset (tool : Tool) (settings : KeyMap String) (reset : Bool) :
    let left := (Store.memory settings).bindAll (tool.dueIn (.memory settings) true)
    left.bindAll (tool.dueIn left reset) = left := by
  intro left
  refine Store.bindAll_present fun pair due => ?_
  obtain ⟨entry, member, -, rfl⟩ := mem_dueIn_iff.mp due
  rw [Store.stored_bindAll]
  exact get?_reset settings member

theorem fault?_dueIn (tool : Tool) (settings : KeyMap String) (reset : Bool) :
    (Store.memory settings).fault? (tool.dueIn (.memory settings) reset) = none := by
  rw [Store.fault?_eq_none]
  intro pair due
  obtain ⟨entry, -, -, rfl⟩ := mem_dueIn_iff.mp due
  exact if_neg (settingKey_named tool entry.1)

end Tool

namespace StoreHost

variable {σ : Type} {runner : Runner σ} {rep : StoreView → σ → Prop} {view : StoreView} {s t : σ}
  {loaded : Loaded} (host : StoreHost runner rep)
include host

theorem run_reset_memory (tool : Tool) (seen : rep view s) (memory : view.store = .memory settings) :
    ∃ t, tool.reset.run runner s = (.done (), t) ∧
      rep { view with
        store := .memory (bound settings (tool.dueIn (.memory settings) true))
        output := view.output ++ tool.resetText } t := by
  have saves := host.memory view s settings seen memory
  obtain ⟨arguments, _, _, output⟩ := view
  obtain rfl := memory
  obtain ⟨t, ran, seen⟩ := host.run_reset tool seen (.inl saves) (tool.fault?_dueIn settings true)
  refine ⟨t, ran, ?_⟩
  have second : tool.report ((Store.memory settings).bindAll (tool.dueIn (.memory settings) true)) false =
      tool.report tool.initially false := by
    refine Tool.report_congr (fun entry member => ?_) false
    rw [Tool.get?_reset settings member, Tool.initially, Tool.get?_reset .empty member]
  rw [Tool.bindAll_after_reset, second, tool.report_reset (.memory .empty), Store.bindAll_memory] at seen
  exact seen

theorem loads_again (seen : rep view s) (apart : tool.KeysApart view.store)
    (first : (tool.load false).run runner s = (.done loaded, t)) :
    ∃ left again u, rep { view with store := left } t ∧
      (tool.load false).run runner t = (.done again, u) ∧ rep { view with store := left } u ∧
      again.values = loaded.values ∧ again.missing = loaded.missing := by
  have able := host.able_of_load seen first
  obtain ⟨_, ran, left⟩ := host.run_load tool false seen able
  obtain ⟨same, rfl⟩ := Prod.mk.inj (ran.symm.trans first)
  obtain ⟨fine, rfl⟩ := ended_eq_done same
  rw [Store.accepted_of_fault?_none fine] at left
  have within : ∀ pair ∈ tool.dueIn (view.store.bindAll (tool.dueIn view.store false)) false,
      pair ∈ tool.dueIn view.store false := fun pair due => (apart.due_again due).1
  have able' : view.saves ∨
      tool.dueIn (view.store.bindAll (tool.dueIn view.store false)) false = [] := by
    refine able.imp_right fun none => List.eq_nil_iff_forall_not_mem.mpr fun pair due => ?_
    have before := within pair due
    rw [none] at before
    exact List.not_mem_nil before
  have fine' : (view.store.bindAll (tool.dueIn view.store false)).fault?
      (tool.dueIn (view.store.bindAll (tool.dueIn view.store false)) false) = none := by
    rw [Store.fault?_bindAll, Store.fault?_eq_none]
    exact fun pair due => Store.fault?_eq_none.mp fine pair (within pair due)
  obtain ⟨u, again, kept⟩ := host.run_load_accepted tool false left able' fine'
  rw [apart.bindAll_again] at kept
  exact ⟨_, _, u, left, again, kept, apart.report_again⟩

end StoreHost

/-- A reset prints the same whatever the settings in memory were, and leaves every property at its
default, or empty if it has none, and all other settings as they were; so a second reset prints the
same again and changes nothing. Once a loading has succeeded, and no two properties share a key in the
store, a second loading succeeds with the same values and the same missing properties and leaves the
store as it was. Keys are never shared in memory, nor in any store if there are no blanks at their ends. -/
theorem reset_forgets_and_loads_again {σ : Type} {runner : Runner σ} {rep : StoreView → σ → Prop}
    (host : StoreHost runner rep) (tool : Tool) {view : StoreView} {s : σ} (seen : rep view s) :
    (∀ settings, view.store = .memory settings →
      (∃ after t u, tool.PutBack settings after ∧
        tool.reset.run runner s = (.done (), t) ∧
        rep { view with store := .memory after, output := view.output ++ tool.resetText } t ∧
        tool.reset.run runner t = (.done (), u) ∧
        rep { view with
          store := .memory after, output := view.output ++ tool.resetText ++ tool.resetText } u) ∧
      tool.KeysApart view.store ∧ ∃ loaded t, (tool.load false).run runner s = (.done loaded, t)) ∧
    ((∀ entry ∈ tool.properties.toList, Text.trim (tool.settingKey entry.1) = tool.settingKey entry.1) →
      tool.KeysApart view.store) ∧
    (tool.KeysApart view.store →
      ∀ loaded t, (tool.load false).run runner s = (.done loaded, t) →
        ∃ left again u, rep { view with store := left } t ∧
          (tool.load false).run runner t = (.done again, u) ∧ rep { view with store := left } u ∧
          again.values = loaded.values ∧ again.missing = loaded.missing) := by
  refine ⟨fun settings memory => ⟨?_, ?_, ?_⟩, Tool.keysApart_of_trimmed view.store,
    fun apart loaded t first => host.loads_again seen apart first⟩
  · obtain ⟨t, ran, first⟩ := host.run_reset_memory tool seen memory
    obtain ⟨u, again, second⟩ := host.run_reset_memory tool first rfl
    -- the second reset binds what is there
    have kept := tool.bindAll_after_reset settings true
    simp only [Store.bindAll_memory] at kept
    rw [kept] at second
    exact ⟨_, t, u, tool.putBack settings, ran, first, again, second⟩
  · rw [memory]
    exact tool.keysApart_memory settings
  · have saves := host.memory view s settings seen memory
    have fine : view.store.fault? (tool.dueIn view.store false) = none := by
      rw [memory]
      exact tool.fault?_dueIn settings false
    obtain ⟨t, ran, -⟩ := host.run_load_accepted tool false seen (.inl saves) fine
    exact ⟨_, t, ran⟩

theorem reset_forgets_and_loads_again_volt :
    let port : Property := { description := "Server port", default := some "21212" }
    let tool : Tool :=
      { key := "volt", properties := .ofList [("port", port), ("user", ⟨"Login name", none⟩)] }
    let settings : KeyMap String := .ofList [("volt.port", "1"), ("volt.user", "admin"), ("x.y", "1")]
    ∃ t u v loaded w again, tool.reset.run Recorder.runner (recorderOf [] settings) = (.done (), t) ∧
      t.settings.get? "volt.port" = some "21212" ∧ t.settings.get? "volt.user" = some "" ∧
      t.settings.get? "x.y" = some "1" ∧ t.output = "" ++ tool.resetText ∧
      tool.reset.run Recorder.runner t = (.done (), u) ∧ u.settings = t.settings ∧
      u.output = "" ++ tool.resetText ++ tool.resetText ∧
      (tool.load false).run Recorder.runner (recorderOf [] settings) = (.done loaded, v) ∧
      (tool.load false).run Recorder.runner v = (.done again, w) ∧ w.settings = v.settings ∧
      again.values = loaded.values ∧ again.missing = loaded.missing := by
  intro port tool settings
  have seen : recordedStore ⟨[], .memory settings, True, ""⟩ (recorderOf [] settings) :=
    ⟨arguments_recorderOf [] settings, rfl, trivial, rfl⟩
  obtain ⟨reset, -, load⟩ := reset_forgets_and_loads_again recorder_storeHost tool seen
  obtain ⟨⟨after, t, u, put, ran, ⟨-, first, -, told⟩, again, ⟨-, second, -, retold⟩⟩, apart, loaded, v,
    found⟩ := reset settings rfl
  obtain rfl := Store.memory.inj first
  obtain ⟨left, reloaded, w, ⟨-, kept, -⟩, ran', ⟨-, kept', -⟩, values, missing⟩ := load apart loaded v found
  have apart : ∀ name property, tool.properties.get? name = some property →
      "x.y" ≠ tool.settingKey name := by
    intro name property _ same
    have chars := congrArg String.toList same
    rw [toList_settingKey] at chars
    have start : tool.key.toList <+: "x.y".toList := chars ▸ List.prefix_append _ _
    exact absurd start (by decide +kernel)
  exact ⟨t, u, v, loaded, w, reloaded, ran, put.back "port" port (by decide +kernel),
    put.back "user" ⟨"Login name", none⟩ (by decide +kernel),
    (put.kept "x.y" apart).trans (by decide +kernel), told, again, (Store.memory.inj second).symm, retold,
    found, ran', Store.memory.inj (kept'.symm.trans kept), values, missing⟩

/-- A tool with two properties whose names differ by a blank at the end only. -/
def padded : Tool :=
  { key := "server", properties := .ofList [("x", ⟨"d", some "a\nb"⟩), ("x ", ⟨"e", none⟩)] }

/-- In a file, the second property takes the value of the first away, so that the next loading saves
the default of the first property, which is refused. -/
theorem second_loading_refused :
    let s := sessionOf [] (.emptyAt []) ⟨"c.cfg", .ofList [("server.x", "v")]⟩
    let first := (padded.load false).run (Session.runner unconnected) s
    let second := (padded.load false).run (Session.runner unconnected) first.2
    (∃ loaded, first.1 = .done loaded ∧ loaded.missing = ["x "]) ∧
      second.1 = .failed (.config (.malformed "value for \"server.x\" spans lines")) := by
  exact ⟨⟨_, rfl, by decide +kernel⟩, rfl⟩

end CommandVerbs.Config
