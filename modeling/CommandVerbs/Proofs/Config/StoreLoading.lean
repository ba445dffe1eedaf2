import CommandVerbs.Proofs.Config.Loading
import CommandVerbs.Proofs.Config.StoreCommands

/-! How properties are loaded from any store. What is saved for a property is not looked up for another,
so each is judged by the store before the loading, and loading comes to binding the pairs that are due. -/
namespace CommandVerbs.Config

namespace Tool

variable {tool : Tool} {name later : String} {reset : Bool} {entry : String × Property}
  {entries : List (String × Property)} {settings others : KeyMap String}

/-- What loading saves, in order. -/
def due (tool : Tool) (settings : KeyMap String) (reset : Bool) (entries : List (String × Property)) :
    List (String × String) :=
  (entries.filter fun entry => tool.Unset settings reset entry.1).map tool.initial

theorem due_cons_unset (unset : tool.Unset settings reset entry.1) :
    tool.due settings reset (entry :: entries) = tool.initial entry :: tool.due settings reset entries := by
  simp [due, unset]

theorem due_cons_set (set : ¬tool.Unset settings reset entry.1) :
    tool.due settings reset (entry :: entries) = tool.due settings reset entries := by
  simp [due, set]

theorem due_congr (same : ∀ entry ∈ entries,
      others.get? (tool.settingKey entry.1) = settings.get? (tool.settingKey entry.1)) :
    tool.due others reset entries = tool.due settings reset entries := by
  refine congrArg _ (List.filter_congr fun entry member => ?_)
  exact decide_eq_decide.mpr (unset_congr (same entry member))

/-- What loading all properties saves in a store. -/
def dueIn (tool : Tool) (store : Store) (reset : Bool) : List (String × String) :=
  tool.due store.pairs reset tool.properties.toList

/-- What loading all properties of a store reports. -/
def report (tool : Tool) (store : Store) (reset : Bool) : Loaded :=
  tool.summarize reset (tool.properties.toList.map (tool.found store.pairs reset))

theorem due_reset (tool : Tool) (settings : KeyMap String) (entries : List (String × Property)) :
    tool.due settings true entries = entries.map tool.initial := by
  refine congrArg _ (List.filter_eq_self.mpr fun entry _ => ?_)
  exact decide_eq_true (.inl rfl)

theorem due_sublist (tool : Tool) (settings : KeyMap String) (reset : Bool)
    (entries : List (String × Property)) :
    (tool.due settings reset entries).Sublist (entries.map tool.initial) :=
  List.filter_sublist.map _

theorem dueIn_reset (tool : Tool) (store : Store) :
    tool.dueIn store true = tool.properties.toList.map tool.initial :=
  tool.due_reset store.pairs tool.properties.toList

/-- A reset saves all that can be due. -/
theorem dueIn_sublist (tool : Tool) (store left : Store) (reset : Bool) :
    (tool.dueIn left reset).Sublist (tool.dueIn store true) :=
  tool.dueIn_reset store ▸ tool.due_sublist left.pairs reset tool.properties.toList

/-- What is saved for a property is never looked up for one that comes later. A file has the keys
trimmed, and a key that has lost blanks at its end comes before the one that has them. -/
theorem stored_ne_settingKey (store : Store) (before : name < later) :
    store.stored (tool.settingKey name) ≠ tool.settingKey later := by
  intro same
  have start : (tool.settingKey later).toList <+: (tool.settingKey name).toList := by
    cases store with
    | memory => exact same ▸ List.prefix_rfl
    | file =>
      have trimmed : Text.trimChars (tool.settingKey name).toList = (tool.settingKey later).toList := by
        rw [← String.toList_ofList (l := Text.trimChars _)]
        exact congrArg String.toList same
      rw [← trimmed]
      refine Text.trimChars_prefix fun c first => ?_
      -- both keys begin with the same character
      have first : (tool.settingKey later).toList.head? = some c := by
        cases key : tool.key.toList <;> simpa [toList_settingKey, key] using first
      obtain ⟨rest, shape⟩ := List.head?_eq_some_iff.mp first
      exact Text.head_trimChars (trimmed.trans shape)
  rw [toList_settingKey, toList_settingKey, List.prefix_append_right_inj, List.cons_prefix_cons]
    at start
  exact start.2.le before

end Tool

/-- The lines that tell the user what there is to tell. -/
def Loaded.lines (loaded : Loaded) : List String :=
  if loaded.messages.isEmpty then []
  else loaded.messages.flatMap (fun message => ["", message]) ++ [""]

/-- Telling the user. -/
def Loaded.tell (loaded : Loaded) : Script Loaded := do
  if !loaded.messages.isEmpty then
    loaded.messages.forM fun message => do
      Script.writeLine ""
      Script.writeLine message
    Script.writeLine ""
  return loaded

theorem Tool.loadAndReport_eq (tool : Tool) (reset : Bool) :
    tool.loadAndReport reset = (tool.load reset >>= Loaded.tell) := rfl

theorem TakesText.run_tell {σ : Type} {runner : Runner σ} {shown : String → σ → Prop}
    {output : String} {s : σ} (takes : TakesText runner shown) (loaded : Loaded)
    (seen : shown output s) :
    ∃ t, loaded.tell.run runner s = (.done loaded, t) ∧ shown (output ++ printed loaded.lines) t := by
  by_cases quiet : loaded.messages = []
  · refine ⟨s, ?_, ?_⟩
    · simp only [Loaded.tell, quiet]
      rfl
    · simpa [Loaded.lines, quiet, printed] using seen
  · obtain ⟨u, told, seen⟩ := takes.run_messages loaded.messages seen
    obtain ⟨t, ended, seen⟩ := takes.run_writeLine "" seen
    refine ⟨t, ?_, ?_⟩
    · have some : (!loaded.messages.isEmpty) = true := by simpa using quiet
      simp only [Loaded.tell, if_pos some, Script.run_bind, told, ended]
      rfl
    · rw [Loaded.lines, if_neg (by simpa using quiet), printed_append, ← String.append_assoc]
      exact seen

/-- What a reset tells the user first. -/
def clearing : String := Script.messageText "INFO" "Clearing configuration settings..." []

namespace StoreHost

variable {σ : Type} {runner : Runner σ} {rep : StoreView → σ → Prop} {view : StoreView} {s : σ}
  {fault : ConfigFault} {tool : Tool} {reset : Bool} {entry : String × Property}
  {entries : List (String × Property)} (host : StoreHost runner rep)
include host

theorem run_settle_set (seen : rep view s) (set : ¬tool.Unset view.store.pairs reset entry.1) :
    ∃ t, (tool.settle reset entry).run runner s =
      (.done (tool.found view.store.pairs reset entry), t) ∧ rep view t := by
  obtain ⟨looked, next⟩ := host.looked view s (tool.settingKey entry.1) seen
  refine ⟨_, ?_, next⟩
  rw [Tool.run_settle looked, if_neg set]
  rfl

theorem run_settle_unset (seen : rep view s) (unset : tool.Unset view.store.pairs reset entry.1) :
    ∃ u, rep view u ∧ (tool.settle reset entry).run runner s =
      (Script.setSetting (tool.initial entry).1 (tool.initial entry).2 >>= fun _ =>
        .done (tool.found view.store.pairs reset entry)).run runner u := by
  obtain ⟨looked, next⟩ := host.looked view s (tool.settingKey entry.1) seen
  refine ⟨_, next, ?_⟩
  rw [Tool.run_settle looked, if_pos unset]

theorem run_settle_accepted (seen : rep view s) (unset : tool.Unset view.store.pairs reset entry.1)
    (saves : view.saves) (fine : view.store.refusal? (tool.initial entry) = none) :
    ∃ t, (tool.settle reset entry).run runner s =
        (.done (tool.found view.store.pairs reset entry), t) ∧
      rep { view with
        store := view.store.changed (.set (tool.initial entry).1 (tool.initial entry).2) } t := by
  obtain ⟨u, seen, saving⟩ := host.run_settle_unset seen unset
  obtain ⟨t, bound, seen⟩ := host.run_setSetting_accepted seen saves fine
  refine ⟨t, ?_, seen⟩
  rw [saving, Script.run_bind, bound]
  rfl

theorem run_settle_refused (seen : rep view s) (unset : tool.Unset view.store.pairs reset entry.1)
    (refused : view.store.refusal? (tool.initial entry) = some fault) :
    ∃ t, (tool.settle reset entry).run runner s = (.failed (.config fault), t) ∧ rep view t := by
  obtain ⟨u, seen, saving⟩ := host.run_settle_unset seen unset
  obtain ⟨t, stopped, seen⟩ := host.run_setSetting_refused seen refused
  refine ⟨t, ?_, seen⟩
  rw [saving, Script.run_bind, stopped]

/-- Loading judges every property by the store as it was, and comes to binding what is due. -/
theorem run_settleAll (ascending : Ascending entries) (seen : rep view s)
    (able : view.saves ∨ tool.due view.store.pairs reset entries = []) :
    let due := tool.due view.store.pairs reset entries
    ∃ t, (entries.mapM (tool.settle reset)).run runner s =
        (ended (entries.map (tool.found view.store.pairs reset)) (view.store.fault? due), t) ∧
      rep { view with store := view.store.bindAll (view.store.accepted due) } t := by
  intro due
  induction entries generalizing view s with
  | nil => exact ⟨s, rfl, seen⟩
  | cons entry rest ih =>
    obtain ⟨less, ascending⟩ := List.pairwise_cons.mp ascending
    by_cases unset : tool.Unset view.store.pairs reset entry.1
    · have first : due = tool.initial entry :: tool.due view.store.pairs reset rest :=
        Tool.due_cons_unset unset
      have saves : view.saves := able.resolve_right (by rw [Tool.due_cons_unset unset]; simp)
      rw [first]
      cases verdict : view.store.refusal? (tool.initial entry) with
      | some fault =>
        obtain ⟨t, stopped, seen⟩ := host.run_settle_refused seen unset verdict
        obtain ⟨failed, none⟩ := Store.fault?_cons_refused verdict (tool.due view.store.pairs reset rest)
        rw [failed, none]
        refine ⟨t, ?_, seen⟩
        rw [List.mapM_cons, Script.run_bind, stopped]
        rfl
      | none =>
        obtain ⟨u, bound, seen⟩ := host.run_settle_accepted seen unset saves verdict
        obtain ⟨same, others⟩ := Store.fault?_cons_accepted verdict (tool.due view.store.pairs reset rest)
        rw [same, others, Store.bindAll_cons]
        -- what has just been saved is not looked up later
        have kept : ∀ other ∈ rest,
            (view.store.changed (.set (tool.initial entry).1 (tool.initial entry).2)).get?
              (tool.settingKey other.1) = view.store.get? (tool.settingKey other.1) :=
          fun other member => Store.get?_changed_other (Tool.stored_ne_settingKey _ (less other member))
        obtain ⟨t, later, seen⟩ := ih ascending seen (.inl saves)
        rw [Tool.due_congr kept, Store.accepted_changed] at seen
        rw [Tool.due_congr kept, Store.fault?_changed,
          List.map_congr_left fun other member => Tool.found_congr (kept other member)] at later
        refine ⟨t, ?_, seen⟩
        rw [List.mapM_cons, Script.run_bind, bound]
        simp only [Script.run_bind, later]
        cases view.store.fault? (tool.due view.store.pairs reset rest) <;> rfl
    · have same : due = tool.due view.store.pairs reset rest := Tool.due_cons_set unset
      rw [Tool.due_cons_set unset] at able
      rw [same]
      obtain ⟨u, found, seen⟩ := host.run_settle_set seen unset
      obtain ⟨t, later, seen⟩ := ih ascending seen able
      refine ⟨t, ?_, seen⟩
      rw [List.mapM_cons, Script.run_bind, found]
      simp only [Script.run_bind, later]
      cases view.store.fault? (tool.due view.store.pairs reset rest) <;> rfl

theorem settleAll_unsaved (seen : rep view s) (stuck : ¬view.saves)
    (some : tool.due view.store.pairs reset entries ≠ []) :
    ∃ fault t, (entries.mapM (tool.settle reset)).run runner s = (.failed fault, t) := by
  induction entries generalizing s with
  | nil => exact absurd rfl some
  | cons entry rest ih =>
    rw [List.mapM_cons, Script.run_bind]
    by_cases unset : tool.Unset view.store.pairs reset entry.1
    · obtain ⟨u, seen, saving⟩ := host.run_settle_unset seen unset
      obtain ⟨fault, t, failed⟩ := host.run_setSetting_unsaved seen stuck (tool.initial entry)
      exact ⟨fault, t, by rw [saving, Script.run_bind, failed]⟩
    · obtain ⟨u, found, seen⟩ := host.run_settle_set seen unset
      rw [Tool.due_cons_set unset] at some
      obtain ⟨fault, t, failed⟩ := ih seen some
      refine ⟨fault, t, ?_⟩
      rw [found]
      simp only [Script.run_bind, failed]

/-- Loading comes to binding what is due in all properties, and to a report. -/
theorem run_load (tool : Tool) (reset : Bool) (seen : rep view s)
    (able : view.saves ∨ tool.dueIn view.store reset = []) :
    ∃ t, (tool.load reset).run runner s =
        (ended (tool.report view.store reset) (view.store.fault? (tool.dueIn view.store reset)), t) ∧
      rep { view with
        store := view.store.bindAll (view.store.accepted (tool.dueIn view.store reset)) } t := by
  obtain ⟨u, settled, seen⟩ := host.run_settleAll tool.properties.ascending seen able
  rw [Tool.load, Script.run_bind, settled]
  simp only [Tool.dueIn]
  cases view.store.fault? (tool.due view.store.pairs reset tool.properties.toList) with
  | none => exact ⟨_, rfl, host.reported _ u .propertiesLoaded seen⟩
  | some fault => exact ⟨u, rfl, seen⟩

theorem run_load_accepted (tool : Tool) (reset : Bool) (seen : rep view s)
    (able : view.saves ∨ tool.dueIn view.store reset = [])
    (fine : view.store.fault? (tool.dueIn view.store reset) = none) :
    ∃ t, (tool.load reset).run runner s = (.done (tool.report view.store reset), t) ∧
      rep { view with store := view.store.bindAll (tool.dueIn view.store reset) } t := by
  obtain ⟨t, ran, seen⟩ := host.run_load tool reset seen able
  rw [fine] at ran
  rw [Store.accepted_of_fault?_none fine] at seen
  exact ⟨t, ran, seen⟩

theorem able_of_load {tool : Tool} {reset : Bool} {loaded : Loaded} {t : σ} (seen : rep view s)
    (done : (tool.load reset).run runner s = (.done loaded, t)) :
    view.saves ∨ tool.dueIn view.store reset = [] := by
  by_contra neither
  obtain ⟨stuck, some⟩ := not_or.mp neither
  obtain ⟨fault, u, failed⟩ := host.settleAll_unsaved seen stuck some
  rw [Tool.load, Script.run_bind, failed] at done
  simp at done

theorem run_loadAndReport (tool : Tool) (reset : Bool) (seen : rep view s)
    (able : view.saves ∨ tool.dueIn view.store reset = [])
    (fine : view.store.fault? (tool.dueIn view.store reset) = none) :
    ∃ t, (tool.loadAndReport reset).run runner s = (.done (tool.report view.store reset), t) ∧
      rep { view with
        store := view.store.bindAll (tool.dueIn view.store reset)
        output := view.output ++ printed (tool.report view.store reset).lines } t := by
  obtain ⟨u, found, seen⟩ := host.run_load_accepted tool reset seen able fine
  obtain ⟨t, told, seen⟩ := (host.takesText { view with
    store := view.store.bindAll (tool.dueIn view.store reset) }).run_tell _ seen
  refine ⟨t, ?_, seen⟩
  rw [Tool.loadAndReport_eq, Script.run_bind, found]
  exact told

theorem loadAndReport_refused (tool : Tool) (reset : Bool) (seen : rep view s) (saves : view.saves)
    (stopped : view.store.fault? (tool.dueIn view.store reset) = some fault) :
    ∃ t, (tool.loadAndReport reset).run runner s = (.failed (.config fault), t) ∧
      rep { view with
        store := view.store.bindAll (view.store.accepted (tool.dueIn view.store reset)) } t := by
  obtain ⟨t, found, seen⟩ := host.run_load tool reset seen (.inl saves)
  refine ⟨t, ?_, seen⟩
  rw [Tool.loadAndReport_eq, Script.run_bind, found, stopped]
  rfl

/-- A reset saves every property, and then loads what it has saved. -/
theorem run_reset (tool : Tool) (seen : rep view s)
    (able : view.saves ∨ tool.dueIn view.store true = [])
    (fine : view.store.fault? (tool.dueIn view.store true) = none) :
    let left := view.store.bindAll (tool.dueIn view.store true)
    ∃ t, tool.reset.run runner s = (.done (), t) ∧
      rep { view with
        store := left.bindAll (tool.dueIn left false)
        output := view.output ++ (clearing ++ printed (tool.report view.store true).lines ++
          printed (tool.report left false).lines) } t := by
  intro left
  have within := (tool.dueIn_sublist view.store left false).subset
  have able' : view.saves ∨ tool.dueIn left false = [] := by
    refine able.imp_right fun none => ?_
    rw [none] at within
    exact List.subset_nil.mp within
  have fine' : left.fault? (tool.dueIn left false) = none := by
    rw [Store.fault?_bindAll, Store.fault?_eq_none]
    exact fun pair member => Store.fault?_eq_none.mp fine pair (within member)
  obtain ⟨u, told, seen⟩ := (host.takesText view).run_inform "Clearing configuration settings..." [] seen
  obtain ⟨v, first, seen⟩ := host.run_loadAndReport tool true seen able fine
  obtain ⟨t, second, seen⟩ := host.run_loadAndReport tool false seen able' fine'
  refine ⟨t, ?_, ?_⟩
  · rw [Tool.reset, Script.run_bind, told]
    simp only [Script.run_bind, first, second]
    rfl
  · rw [← String.append_assoc, ← String.append_assoc]
    exact seen

theorem reset_refused (tool : Tool) (seen : rep view s) (saves : view.saves)
    (stopped : view.store.fault? (tool.dueIn view.store true) = some fault) :
    ∃ t, tool.reset.run runner s = (.failed (.config fault), t) ∧
      rep { view with
        store := view.store.bindAll (view.store.accepted (tool.dueIn view.store true))
        output := view.output ++ clearing } t := by
  obtain ⟨u, told, seen⟩ := (host.takesText view).run_inform "Clearing configuration settings..." [] seen
  obtain ⟨t, failed, seen⟩ := host.loadAndReport_refused tool true seen saves stopped
  refine ⟨t, ?_, seen⟩
  rw [Tool.reset, Script.run_bind, told]
  simp only [Script.run_bind, failed]

end StoreHost

end CommandVerbs.Config
