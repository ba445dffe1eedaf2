import Mathlib.Logic.Function.Basic
import CommandVerbs.Proofs.Config.Reopening

/-! Programs that share a configuration file. Each keeps its own copy of the pairs, which are those
it found when it opened the file and its own changes to them, and whenever it saves it writes all of
its copy. So the file is the copy of the program that wrote it last, and a pair that another program
stored is in it only if that copy has the pair too. -/
namespace CommandVerbs.Config

variable {ι : Type} [DecidableEq ι] {i j : ι} {edit : Edit} {turns : List (ι × Edit)}
  {store start : FileStore} {files : FileTree} {path name value : String} {pairs : KeyMap String}
  {pair : String × String}

/-- The stores of the programs, the files, and which program wrote the shared file last. -/
structure Shared (ι : Type) where
  stores : ι → FileStore
  files : FileTree
  writer : Option ι

namespace Shared

variable {s t : Shared ι}

/-- All programs have opened the file. -/
def opened (store : FileStore) (files : FileTree) : Shared ι := ⟨fun _ => store, files, none⟩

/-- One program makes a change, which has to succeed. -/
def step (s : Shared ι) (turn : ι × Edit) : Except ConfigFault (Shared ι) :=
  match turn.2.perform (s.stores turn.1) s.files with
  | (_, _, .error fault) => .error fault
  | (next, left, .ok ()) => .ok {
      stores := Function.update s.stores turn.1 next
      files := left
      writer := if turn.2.Idle (s.stores turn.1).pairs then s.writer else some turn.1 }

def run (s : Shared ι) (turns : List (ι × Edit)) : Except ConfigFault (Shared ι) :=
  turns.foldlM step s

/-- The changes of one program. -/
def own (i : ι) (turns : List (ι × Edit)) : List Edit :=
  turns.filterMap fun turn => if turn.1 = i then some turn.2 else none

theorem own_snoc_same (i : ι) (turns : List (ι × Edit)) (edit : Edit) :
    own i (turns ++ [(i, edit)]) = own i turns ++ [edit] := by
  simp [own, List.filterMap_append]

theorem own_snoc_other (turns : List (ι × Edit)) (edit : Edit) (different : i ≠ j) :
    own i (turns ++ [(j, edit)]) = own i turns := by
  simp [own, List.filterMap_append, Ne.symm different]

/-- All that a turn can do. -/
theorem step_cases (stepped : s.step (i, edit) = .ok t) :
    t.stores = Function.update s.stores i ((s.stores i).changed edit) ∧
      (edit.Idle (s.stores i).pairs ∧ t.files = s.files ∧ t.writer = s.writer ∨
        ¬edit.Idle (s.stores i).pairs ∧ edit.Fits ∧ t.writer = some i ∧
          ((s.stores i).changed edit).save s.files = (t.files, .ok ())) := by
  unfold step at stepped
  split at stepped
  · contradiction
  rename_i next left done
  obtain rfl := Except.ok.inj stepped
  obtain ⟨rfl, ⟨idle, rfl⟩ | ⟨busy, fits, saved⟩⟩ := perform_eq_ok done
  · exact ⟨rfl, .inl ⟨idle, rfl, if_pos idle⟩⟩
  · exact ⟨rfl, .inr ⟨busy, fits, if_neg busy, saved⟩⟩

/-- What holds after the turns of programs that have opened the same file. -/
structure Follows (start : FileStore) (turns : List (ι × Edit)) (s : Shared ι) : Prop where
  copies : ∀ i, s.stores i = ⟨start.path, (own i turns).foldl Edit.effect start.pairs⟩
  writable : ∀ i, ∀ pair ∈ (s.stores i).pairs.toList, Writable pair
  file : ∀ i, s.writer = some i → s.files.read start.path = .ok (writePairs (s.stores i).pairs)
  written : ∀ i name value, (i, .set name value) ∈ turns → s.writer.isSome

theorem Follows.of_opened (writable : ∀ pair ∈ store.pairs.toList, Writable pair) :
    Follows store [] (opened store files : Shared ι) where
  copies _ := rfl
  writable _ := writable
  file _ written := by simp [opened] at written
  written _ _ _ member := absurd member List.not_mem_nil

theorem Follows.step (follows : Follows start turns s) (stepped : s.step (i, edit) = .ok t) :
    Follows start (turns ++ [(i, edit)]) t := by
  obtain ⟨stores, outcome⟩ := step_cases stepped
  have acting : t.stores i = (s.stores i).changed edit := by
    rw [stores, Function.update_self]
  have waiting : ∀ j, j ≠ i → t.stores j = s.stores j := by
    intro j different
    rw [stores, Function.update_of_ne different]
  refine ⟨fun j => ?_, fun j => ?_, fun j written => ?_, fun j name value member => ?_⟩
  · by_cases same : j = i
    · subst same
      rw [acting, FileStore.changed, follows.copies j, own_snoc_same, List.foldl_append]
      rfl
    · rw [waiting j same, own_snoc_other turns edit same, follows.copies j]
  · by_cases same : j = i
    · subst same
      rw [acting]
      rcases outcome with ⟨idle, -⟩ | ⟨-, fits, -⟩
      · rw [FileStore.changed, effect_idle idle]
        exact follows.writable j
      · exact changed_writable (follows.writable j) fits
    · rw [waiting j same]
      exact follows.writable j
  · rcases outcome with ⟨idle, files, writer⟩ | ⟨-, -, writer, saved⟩
    · rw [files, follows.file j (writer ▸ written)]
      by_cases same : j = i
      · subst same
        rw [acting, FileStore.changed, effect_idle idle]
      · rw [waiting j same]
    · obtain rfl : i = j := Option.some.inj (writer.symm.trans written)
      have path : ((s.stores i).changed edit).path = start.path := by
        rw [FileStore.changed, follows.copies i]
      rw [acting, ← path]
      exact (FileStore.read_of_save saved).2
  · rcases outcome with ⟨idle, -, writer⟩ | ⟨-, -, writer, -⟩
    · rw [writer]
      rcases List.mem_append.mp member with earlier | now
      · exact follows.written j name value earlier
      · obtain ⟨rfl, rfl⟩ := Prod.mk.inj (List.mem_singleton.mp now)
        exact absurd idle (not_idle_set _ _ _)
    · rw [writer]
      rfl

theorem Follows.run (writable : ∀ pair ∈ start.pairs.toList, Writable pair)
    (ran : (opened start files).run turns = .ok t) : Follows start turns t := by
  induction turns using List.reverseRecOn generalizing t with
  | nil =>
    obtain rfl := Except.ok.inj ran
    exact .of_opened writable
  | append_singleton turns turn ih =>
    rw [Shared.run, List.foldlM_append] at ran
    simp only [List.foldlM_cons, List.foldlM_nil, bind_pure] at ran
    cases before : turns.foldlM Shared.step (opened start files) with
    | error fault =>
      rw [before] at ran
      contradiction
    | ok s =>
      rw [before] at ran
      exact (ih before).step ran

end Shared

/-- The key that a change is about. -/
def Edit.key : Edit → String
  | .set key _ => Text.trim key
  | .remove key => key

theorem get?_effect_other (pairs : KeyMap String) (other : edit.key ≠ name) :
    (edit.effect pairs).get? name = pairs.get? name := by
  cases edit with
  | set key value => exact KeyMap.get?_insert_other pairs value other.symm
  | remove key => exact KeyMap.get?_erase_other pairs other.symm

theorem get?_effects_other {edits : List Edit} (pairs : KeyMap String)
    (others : ∀ edit ∈ edits, edit.key ≠ name) :
    (edits.foldl Edit.effect pairs).get? name = pairs.get? name := by
  induction edits generalizing pairs with
  | nil => rfl
  | cons edit rest ih =>
    obtain ⟨first, later⟩ := List.forall_mem_cons.mp others
    rw [List.foldl_cons, ih _ later, get?_effect_other pairs first]

/-- A program's copy has what it stored and no change of its own touched since. -/
theorem get?_own_last (pairs : KeyMap String) (before : List (ι × Edit)) (i : ι)
    (key value : String) {after : List (ι × Edit)}
    (last : ∀ turn ∈ after, turn.2.key ≠ Text.trim key) :
    ((Shared.own i (before ++ (i, .set key value) :: after)).foldl Edit.effect pairs).get?
      (Text.trim key) = some value := by
  have split : Shared.own i (before ++ (i, .set key value) :: after) =
      Shared.own i before ++ .set key value :: Shared.own i after := by
    simp [Shared.own, List.filterMap_append]
  have untouched : ∀ edit ∈ Shared.own i after, edit.key ≠ Text.trim key := by
    intro edit member
    obtain ⟨turn, inside, same⟩ := List.mem_filterMap.mp member
    split at same
    · exact Option.some.inj same ▸ last turn inside
    · contradiction
  rw [split, List.foldl_append, List.foldl_cons, get?_effects_other _ untouched]
  exact KeyMap.get?_insert_same _ _ _

/-- The file consists of the lines of pairs, and one of them is the given pair. -/
def Listed (files : FileTree) (path : String) (pair : String × String) : Prop :=
  ∃ pairs : KeyMap String, (∀ pair ∈ pairs.toList, Writable pair) ∧
    files.read path = .ok (writePairs pairs) ∧ pair ∈ pairs.toList

theorem listed_iff (writable : ∀ pair ∈ pairs.toList, Writable pair)
    (text : files.read path = .ok (writePairs pairs)) :
    Listed files path (name, value) ↔ pairs.get? name = some value := by
  rw [← KeyMap.mem_toList_iff]
  constructor
  · rintro ⟨others, fits, text', member⟩
    have same := Except.ok.inj (text'.symm.trans text)
    rwa [← writePairs_injective fits writable same]
  · intro member
    exact ⟨pairs, writable, text, member⟩

/-- Each program has its own changes only, and the file is the copy of the program that wrote it last.
So a pair that a program stored, and whose key no program changed afterwards, is in the file exactly if
that program wrote last or the copy of the one that did has the pair. -/
theorem shared_file_listed {final : Shared ι} (found : FileStore.load files path = .ok store)
    (ran : (Shared.opened store files).run turns = .ok final) :
    (∀ i, final.stores i = ⟨path, (Shared.own i turns).foldl Edit.effect store.pairs⟩) ∧
    (∀ i, final.writer = some i →
      final.files.read path = .ok (writePairs (final.stores i).pairs)) ∧
    ∀ before i key value after, turns = before ++ (i, .set key value) :: after →
      (∀ turn ∈ after, turn.2.key ≠ Text.trim key) →
      ∃ last, final.writer = some last ∧
        (Listed final.files path (Text.trim key, value) ↔
          last = i ∨ (final.stores last).pairs.get? (Text.trim key) = some value) := by
  obtain ⟨rfl, loaded⟩ := FileStore.load_eq_ok found
  have follows := Shared.Follows.run (fun pair member => (loaded pair member).1) ran
  refine ⟨follows.copies, follows.file, fun before i key value after split untouched => ?_⟩
  obtain ⟨last, writer⟩ := Option.isSome_iff_exists.mp
    (follows.written i key value (by simp [split]))
  refine ⟨last, writer, ?_⟩
  rw [listed_iff (follows.writable last) (follows.file last writer)]
  refine ⟨.inr, ?_⟩
  rintro (rfl | present)
  · rw [follows.copies, split]
    exact get?_own_last _ _ _ _ _ untouched
  · exact present

/-- The turns of two programs that have both found no file. -/
def together (turns : List (Bool × Edit)) : Except ConfigFault (Shared Bool) :=
  (Shared.opened ⟨"app.cfg", .empty⟩ (.emptyAt [])).run turns

theorem load_nothing : FileStore.load (.emptyAt []) "app.cfg" = .ok ⟨"app.cfg", .empty⟩ := by
  decide +kernel

theorem exists_together (turns : List (Bool × Edit)) (writer : Bool) (text : String)
    (ran : (together turns).map (fun s => (s.writer, s.files.read "app.cfg")) =
      .ok (some writer, .ok text)) :
    ∃ final, together turns = .ok final ∧ final.writer = some writer ∧
      final.files.read "app.cfg" = .ok text := by
  cases outcome : together turns with
  | error fault =>
    rw [outcome] at ran
    contradiction
  | ok final =>
    rw [outcome] at ran
    obtain ⟨writer, text⟩ := Prod.mk.inj (Except.ok.inj ran)
    exact ⟨final, rfl, writer, text⟩

theorem shared_file_listed_apart :
    FileStore.load (.emptyAt []) "app.cfg" = .ok ⟨"app.cfg", .empty⟩ ∧
    ∃ final, together [(false, .set "a" "1"), (true, .set "b" "2"), (false, .remove "c")] = .ok final ∧
      final.files.read "app.cfg" = .ok "b=2\n" ∧
      Listed final.files "app.cfg" ("b", "2") ∧ ¬Listed final.files "app.cfg" ("a", "1") := by
  obtain ⟨final, ran, writer, text⟩ := exists_together
    [(false, .set "a" "1"), (true, .set "b" "2"), (false, .remove "c")] true "b=2\n"
    (by decide +kernel)
  have a : Text.trim "a" = "a" := by decide +kernel
  have b : Text.trim "b" = "b" := by decide +kernel
  obtain ⟨copies, -, listed⟩ := shared_file_listed load_nothing ran
  refine ⟨load_nothing, final, ran, text, ?_, ?_⟩
  · obtain ⟨last, same, there⟩ := listed [(false, .set "a" "1")] true "b" "2"
      [(false, .remove "c")] rfl (by simp [Edit.key, b])
    obtain rfl : true = last := Option.some.inj (writer.symm.trans same)
    exact b ▸ there.mpr (.inl rfl)
  · obtain ⟨last, same, there⟩ := listed [] false "a" "1"
      [(true, .set "b" "2"), (false, .remove "c")] rfl (by simp [Edit.key, a, b])
    obtain rfl : true = last := Option.some.inj (writer.symm.trans same)
    rw [a, copies] at there
    rw [there]
    decide +kernel

/-- Of two programs that each store a pair, the second to write leaves out the pair of the first. -/
theorem pair_of_other_lost :
    ¬∀ (files : FileTree) (path : String) (store : FileStore) (turns before after : List (Bool × Edit))
      (i : Bool) (key value : String) (final : Shared Bool),
      FileStore.load files path = .ok store →
      (Shared.opened store files).run turns = .ok final →
      turns = before ++ (i, .set key value) :: after →
      (∀ turn ∈ after, turn.2.key ≠ Text.trim key) →
      Listed final.files path (Text.trim key, value) := by
  intro kept
  obtain ⟨final, ran, -, text⟩ := exists_together
    [(true, .set "b" "2"), (false, .set "a" "1")] false "a=1\n" (by decide +kernel)
  have listed := kept _ _ _ _ [] [(false, .set "a" "1")] true "b" "2" final load_nothing ran rfl
    (by decide +kernel)
  have written : final.files.read "app.cfg" = .ok (writePairs (readPairs "a=1\n")) :=
    text.trans (by decide +kernel)
  rw [listed_iff (fun _ member => (lasting_of_mem_readPairs member).1) written] at listed
  exact absurd listed (by decide +kernel)

end CommandVerbs.Config
