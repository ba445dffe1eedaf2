import CommandVerbs.Console.StockVerbs
import CommandVerbs.Proofs.Config.Reopening
import CommandVerbs.Proofs.Config.UnsavedChanges
import CommandVerbs.Proofs.Launch.Requests
import CommandVerbs.Session.World

/-! The catalog that is configured in one run and launched in the next. Setting a pair trims it and
writes the file, opening the file again reads it, and the key of the setting is the one that a server
launch asks for where the command line names no catalog. -/
namespace CommandVerbs.Config

variable {store next : FileStore} {files left : FileTree} {key value path : String}
  {fault : ConfigFault}

namespace FileStore

/-- A pair that fits on a line is accepted. -/
theorem refusal?_of_writable (fits : Writable (Text.trim key, value)) :
    refusal? (Text.trimChars key.toList) value.toList = none := by
  obtain ⟨-, named, undivided, keyLine, valueLine⟩ := fits
  rw [Text.trim, String.toList_ofList] at named undivided keyLine
  simp [refusal?, named, undivided, keyLine, valueLine]

/-- So if it cannot be set, it is the storage that fails. -/
theorem storage_of_set (fits : Writable (Text.trim key, value))
    (made : store.set files key value = (next, left, .error fault)) :
    ∃ reason, fault = .storage reason := by
  simp only [set, refusal?_of_writable fits] at made
  exact (save_eq_error (Prod.mk.inj made).2).1

/-- After a pair has been set, opening the file again finds it, and all pairs that were there. -/
theorem load_of_set (opened : load files path = .ok store) (lasting : Lasting (Text.trim key, value))
    (made : store.set files key value = (next, left, .ok ())) :
    ∃ reopened, load left path = .ok reopened ∧
      reopened.pairs = store.pairs.insert (Text.trim key) value := by
  obtain ⟨rfl, pairs⟩ := load_eq_ok opened
  have performed : (Edit.set key value).perform store files = (next, left, .ok ()) := made
  obtain ⟨rfl, ⟨idle, -⟩ | ⟨-, fits, saved⟩⟩ := perform_eq_ok performed
  · exact absurd idle (not_idle_set _ _ _)
  -- what was read from a file stays as it is when it is written and read once more
  have writable := changed_writable (fun pair member => (pairs pair member).1) fits
  obtain ⟨-, reopened, again, read⟩ := Kept.of_save writable saved
  refine ⟨reopened, again, KeyMap.ext_toList (read.trans (filterMap_reread_eq_self.mpr ?_))⟩
  intro pair member
  rcases mem_insertEntry member with rfl | old
  · exact lasting
  · exact (pairs pair old).2

end FileStore

namespace Tool

variable {tool : Tool} {name argument : String} {pair : String × String}

/-- A name without a dot before the equals sign means a property of the tool. -/
theorem assignment?_property (tool : Tool) (undivided : '=' ∉ name.toList)
    (undotted : '.' ∉ name.toList) (trimmed : Text.trim name = name) (text : String) :
    tool.assignment? (name ++ "=" ++ text) = some (tool.settingKey name, Text.trim text) := by
  have chars : (name ++ "=" ++ text).toList = name.toList ++ '=' :: text.toList := by simp
  have parts : Text.cutAt '=' (name ++ "=" ++ text) = some (name, text) := by
    rw [Text.cutAt, chars, Text.cut_append undivided]
    simp
  have key : tool.resolveKey name = tool.settingKey name := by
    rw [resolveKey, if_neg (by simpa using undotted)]
  simp only [assignment?, parts, Option.map_some, trimmed, key]

/-- An argument that stands alone is set and nothing else is done. -/
theorem run_set_single {κ ω : Type} (a : Adapters κ ω) {s : Session κ ω}
    (given : s.invocation.values.list argumentName = [argument])
    (asked : tool.assignment? argument = some pair) :
    tool.set.run (Session.runner a) s = (assign pair).run (Session.runner a) s := by
  rw [set, Session.run_values, given]
  simp only [List.isEmpty_cons, Bool.false_eq_true, if_false, List.filter_cons, asked,
    Option.isNone_some, List.filter_nil, List.isEmpty_nil, if_true, List.filterMap_cons_some asked,
    List.filterMap_nil, Script.forM_cons]
  exact congrArg (·.run (Session.runner a) s) (Script.bind_done (assign pair))

section

variable {κ σ : Type} (launcher : Launcher) (help : List String → Bool → Except Fault String)
  (package : PackageRequest → World σ → Except Fault (List String) × World σ)
  (port : World.Port κ σ) {s : Session κ (World σ)}

/-- Unless the storage fails, a pair that fits on a line is set, and the files are left as the store
leaves them. -/
theorem set_of_run_assign (held : s.world.store = .file store)
    (fits : Writable (Text.trim key, value))
    (saved : ∀ reason, ((assign (key, value)).run
      (Session.runner (World.adapters launcher help package port)) s).1 ≠
        .failed (.config (.storage reason))) :
    ∃ next, store.set s.world.files key value =
      (next, ((assign (key, value)).run
        (Session.runner (World.adapters launcher help package port)) s).2.world.files, .ok ()) := by
  rcases made : store.set s.world.files key value with ⟨next, left, result⟩
  have answer : (World.adapters launcher help package port).setSetting key value s.world =
      (result, { s.world with store := .file next, files := left }) := by
    change s.world.setSetting key value = _
    simp only [World.setSetting, held, Store.set, made]
  rw [assign, Script.run_bind, Session.run_setSetting, answer] at saved ⊢
  cases result with
  | error fault =>
    obtain ⟨reason, rfl⟩ := FileStore.storage_of_set fits made
    exact absurd rfl (saved reason)
  | ok done =>
    -- the line that tells of the pair leaves the files alone, whether it can be written or not
    have kept : ((World.adapters launcher help package port).write .output
        ("set " ++ pairLine (key, value) ++ "\n")
        { s.world with store := .file next, files := left }).2.files = left := rfl
    simp only [Session.run_writeLine]
    rcases wrote : (World.adapters launcher help package port).write .output
      ("set " ++ pairLine (key, value) ++ "\n") { s.world with store := .file next, files := left } with
      ⟨reason | ⟨⟩, world⟩
    all_goals
      rw [wrote] at kept
      exact ⟨next, congrArg (fun files => (next, files, Except.ok ())) kept.symm⟩

end

end Tool

variable {κ σ : Type} (launcher : Launcher) (help : List String → Bool → Except Fault String)
  (package : PackageRequest → World σ → Except Fault (List String) × World σ)
  (port : World.Port κ σ) {s : Session κ (World σ)} {command text : String}

theorem catalog_pair (single : '\n' ∉ (Text.trim text).toList) :
    Writable ("server.catalog", Text.trim text) ∧ Lasting ("server.catalog", Text.trim text) := by
  have name : Text.trimChars "server.catalog".toList = "server.catalog".toList ∧
      "server.catalog".toList ≠ [] ∧ '=' ∉ "server.catalog".toList ∧
      '\n' ∉ "server.catalog".toList ∧ "server.catalog".toList.head? ≠ some '#' := by
    decide +kernel
  obtain ⟨trimmed, named, undivided, keyLine, plain⟩ := name
  refine ⟨⟨trimmed, named, undivided, keyLine, single⟩, plain, ?_⟩
  simp only [Text.trim, String.toList_ofList, Text.trimChars_trimChars]

/-- A catalog that is configured is launched in later runs. When `catalog=` and a text have been set
and saved, the file opens again with the trimmed text as the catalog and with every other pair as it
was; and where the command line then names no catalog, and no port for a debugger or a usable one,
a server launch asks for one launch, and passes the mode and this catalog on. -/
theorem configured_catalog_launched (opened : FileStore.load s.world.files path = .ok store)
    (held : s.world.store = .file store)
    (given : s.invocation.values.list argumentName = ["catalog=" ++ text])
    (named : Text.trim text ≠ "") (single : '\n' ∉ (Text.trim text).toList)
    (saved : ∀ reason, ((StockVerbs.tool command).set.run
      (Session.runner (World.adapters launcher help package port)) s).1 ≠
        .failed (.config (.storage reason))) :
    ∃ reopened,
      FileStore.load ((StockVerbs.tool command).set.run
        (Session.runner (World.adapters launcher help package port)) s).2.world.files path =
          .ok reopened ∧
      reopened.pairs.get? "server.catalog" = some (Text.trim text) ∧
      (∀ key, key ≠ "server.catalog" → reopened.pairs.get? key = store.pairs.get? key) ∧
      ∀ {κ' ω : Type} (a : Adapters κ' ω) (u : Session κ' ω) (mode target : String) (v : Verb),
        a.getSetting "server.catalog" u.world = (Store.file reopened).get? "server.catalog" →
        (u.invocation.values.text? "catalog").filter (· != "") = none →
        JavaLaunch.ValidPort u.invocation.values →
        ∃ request,
          (({ mode, target } : ServerLaunch).launch v).launches (Session.runner a) u = [request] ∧
          [mode, "catalog", Text.trim text] <+: request.arguments := by
  have asked : (StockVerbs.tool command).assignment? ("catalog=" ++ text) =
      some ("server.catalog", Text.trim text) :=
    Tool.assignment?_property _ (show '=' ∉ "catalog".toList by decide) (by decide)
      (by decide +kernel) text
  rw [Tool.run_set_single _ given asked] at saved ⊢
  have key : Text.trim "server.catalog" = "server.catalog" := by decide +kernel
  obtain ⟨fits, lasting⟩ := catalog_pair single
  rw [← key] at fits lasting
  obtain ⟨next, made⟩ := Tool.set_of_run_assign launcher help package port held fits saved
  obtain ⟨reopened, again, pairs⟩ := FileStore.load_of_set opened lasting made
  rw [key] at pairs
  have found : reopened.pairs.get? "server.catalog" = some (Text.trim text) :=
    pairs ▸ KeyMap.get?_insert_same _ _ _
  refine ⟨reopened, again, found, fun other different => ?_, ?_⟩
  · rw [pairs, KeyMap.get?_insert_other _ _ different]
  · intro κ' ω a u mode target v held absent valid
    have configured : a.getSetting "server.catalog" u.world = some (Text.trim text) := held.trans found
    have known : ServerLaunch.catalog? u.invocation.values (a.getSetting "server.catalog" u.world) =
        some (Text.trim text) := by
      rw [ServerLaunch.catalog?, absent, configured, Option.none_or, Option.filter_some,
        if_pos (by simpa using named)]
    refine ⟨_, ServerLaunch.launches_launch_known a u { mode, target } known valid v, ?_⟩
    simp only [JavaLaunch.request, ServerLaunch.arguments, List.append_assoc]
    exact List.prefix_append _ _

/-- A session of a program without a service, with the given arguments and settings. -/
def sessionOf (arguments : List String) (files : FileTree) (store : FileStore) :
    Session Empty (World Unit) where
  invocation := { verb := "config", values := .ofList [(argumentName, .list arguments)] }
  world := { files, store := .file store, service := () }

/-- The adapters of a program without a service. -/
def unconnected : Adapters Empty (World Unit) :=
  World.adapters { program := "java", start := fun _ _ _ => .exited 0 } (fun _ _ => .ok "")
    (fun _ world => (.ok [], world)) World.isolated

theorem configured_catalog_launched_replaced :
    let files : FileTree :=
      (.holding [("app.cfg", "# settings\nserver.catalog=old.jar\nx = 1\n")])
    let store : FileStore := ⟨"app.cfg", .ofList [("server.catalog", "old.jar"), ("x", "1")]⟩
    let s := sessionOf ["catalog= a=#b.jar\t"] files store
    let after := ((StockVerbs.tool "verbs").set.run (Session.runner unconnected) s).2.world
    FileStore.load files "app.cfg" = .ok store ∧
      ((StockVerbs.tool "verbs").set.run (Session.runner unconnected) s).1 = .done () ∧
      ∃ reopened, FileStore.load after.files "app.cfg" = .ok reopened ∧
        reopened.pairs.get? "server.catalog" = some "a=#b.jar" ∧
        reopened.pairs.get? "x" = some "1" ∧
        ∃ request, (({ mode := "create" } : ServerLaunch).launch { name := "create" }).launches
            (Session.runner unconnected) (sessionOf [] after.files reopened) = [request] ∧
          ["create", "catalog", "a=#b.jar"] <+: request.arguments := by
  intro files store s after
  have opened : FileStore.load files "app.cfg" = .ok store := by decide +kernel
  have given : s.invocation.values.list argumentName = ["catalog=" ++ " a=#b.jar\t"] := by
    decide +kernel
  have trimmed : Text.trim " a=#b.jar\t" = "a=#b.jar" := by decide +kernel
  have done : ((StockVerbs.tool "verbs").set.run (Session.runner unconnected) s).1 = .done () := by
    decide +kernel
  have saved : ∀ reason, ((StockVerbs.tool "verbs").set.run (Session.runner unconnected) s).1 ≠
      .failed (.config (.storage reason)) := by simp [done]
  obtain ⟨reopened, again, found, others, launched⟩ :=
    configured_catalog_launched { program := "java", start := fun _ _ _ => .exited 0 }
      (fun _ _ => .ok "") (fun _ world => (.ok [], world)) World.isolated opened rfl given
      (trimmed ▸ by decide) (trimmed ▸ by decide) saved
  rw [← unconnected] at again
  rw [trimmed] at found launched
  refine ⟨opened, done, reopened, again, found, ?_, ?_⟩
  · rw [others "x" (by decide)]
    decide +kernel
  · let values : Values := .ofList [(argumentName, .list [])]
    have unnamed : (values.text? "catalog").filter (· != "") = none := by decide +kernel
    have undebugged : values.integer? "debugport" = none := by decide +kernel
    exact launched unconnected (sessionOf [] after.files reopened) "create" _ { name := "create" } rfl unnamed
      fun port given => absurd (undebugged.symm.trans given) (by simp)

end CommandVerbs.Config
