import CommandVerbs.Proofs.Config.Changes
import CommandVerbs.Proofs.Files.Writing

/-! What a configuration file gives back when it is opened again. After every change the file holds
the lines of the pairs in memory, so what is read are those pairs as their lines are read. A pair is
lost if its key begins with `#`, and changed if there are blanks around its value. -/
namespace CommandVerbs.Config

/-- The store and the files after a change, if it succeeds. -/
def Edit.apply : FileStore × FileTree → Edit → Except ConfigFault (FileStore × FileTree)
  | (store, files), .set key value =>
    match store.set files key value with
    | (store, files, result) => result.map fun () => (store, files)
  | (store, files), .remove key =>
    match store.remove files key with
    | (store, files, result) => result.map fun _ => (store, files)

/-- The store and the files after changes, if all of them succeed. -/
def applyAll (edits : List Edit) (state : FileStore × FileTree) :
    Except ConfigFault (FileStore × FileTree) :=
  edits.foldlM Edit.apply state

variable {store next : FileStore} {files left : FileTree} {edit : Edit} {edits : List Edit}
  {key value path : String} {pair : String × String}

namespace FileStore

/-- A change that is applied has been performed without a fault. -/
theorem perform_of_apply (applied : edit.apply (store, files) = .ok (next, left)) :
    edit.perform store files = (next, left, .ok ()) := by
  cases edit with
  | set key value =>
    rcases made : store.set files key value with ⟨after, written, fault | ⟨⟩⟩
    · simp [Edit.apply, made, Except.map] at applied
    · simp only [Edit.apply, made] at applied
      obtain ⟨rfl, rfl⟩ := Prod.mk.inj (Except.ok.inj applied)
      exact made
  | remove key =>
    rcases made : store.remove files key with ⟨after, written, fault | there⟩
    · simp [Edit.apply, made, Except.map] at applied
    · simp only [Edit.apply, made] at applied
      obtain ⟨rfl, rfl⟩ := Prod.mk.inj (Except.ok.inj applied)
      simp only [Edit.perform, made]
      rfl

theorem load_eq_ok (opened : load files path = .ok store) :
    store.path = path ∧ ∀ pair ∈ store.pairs.toList, Writable pair ∧ Lasting pair := by
  unfold load at opened
  split at opened
  · cases text : files.read path with
    | error fault => simp [text] at opened
    | ok text' =>
      simp only [text] at opened
      obtain rfl := Except.ok.inj opened
      exact ⟨rfl, fun pair => lasting_of_mem_readPairs⟩
  · obtain rfl := Except.ok.inj opened
    exact ⟨rfl, by simp [KeyMap.empty]⟩

/-- The file that was saved holds the lines of the pairs. -/
theorem read_of_save (saved : store.save files = (left, .ok ())) :
    left.contains store.path ∧ left.read store.path = .ok (writePairs store.pairs) := by
  unfold save at saved
  rcases made : store.makeRoom files with ⟨ready, fault | ⟨⟩⟩
  · simp [made] at saved
  rw [made] at saved
  cases written : ready.write store.path (.text (writePairs store.pairs)) with
  | error fault => simp [written] at saved
  | ok result =>
    simp only [written] at saved
    obtain ⟨rfl, -⟩ := Prod.mk.inj saved
    exact FileTree.read_write written

theorem load_of_save (saved : store.save files = (left, .ok ())) :
    load left store.path = .ok ⟨store.path, readPairs (writePairs store.pairs)⟩ := by
  obtain ⟨present, text⟩ := read_of_save saved
  rw [load, if_pos present, text]

/-- The pairs fit on their lines, and opening the file finds what these lines are read as. -/
structure Kept (store : FileStore) (files : FileTree) : Prop where
  writable : ∀ pair ∈ store.pairs.toList, Writable pair
  reopens : ∃ reopened, load files store.path = .ok reopened ∧
    reopened.pairs.toList = store.pairs.toList.filterMap reread

theorem Kept.of_load (opened : load files path = .ok store) : Kept store files := by
  obtain ⟨rfl, pairs⟩ := load_eq_ok opened
  exact ⟨fun pair member => (pairs pair member).1, store, opened,
    (filterMap_reread_eq_self.mpr fun pair member => (pairs pair member).2).symm⟩

theorem Kept.of_save (writable : ∀ pair ∈ store.pairs.toList, Writable pair)
    (saved : store.save files = (left, .ok ())) : Kept store left :=
  ⟨writable, _, load_of_save saved, toList_readPairs_writePairs writable⟩

theorem Kept.apply (kept : Kept store files) (applied : edit.apply (store, files) = .ok (next, left)) :
    Kept next left := by
  obtain ⟨rfl, ⟨idle, rfl⟩ | ⟨-, fits, saved⟩⟩ := perform_eq_ok (perform_of_apply applied)
  · rw [FileStore.changed, effect_idle idle]
    exact kept
  · exact .of_save (changed_writable kept.writable fits) saved

/-- A pair that is there after a change was there before or was set. -/
theorem mem_apply (applied : edit.apply (store, files) = .ok (next, left))
    (member : pair ∈ next.pairs.toList) :
    pair ∈ store.pairs.toList ∨ ∃ key value, edit = .set key value ∧ pair = (Text.trim key, value) := by
  obtain ⟨rfl, -⟩ := perform_eq_ok (perform_of_apply applied)
  cases edit with
  | set key value =>
    rcases mem_insertEntry member with rfl | old
    · exact .inr ⟨key, value, rfl, rfl⟩
    · exact .inl old
  | remove key => exact .inl (List.mem_of_mem_filter member)

theorem path_apply (applied : edit.apply (store, files) = .ok (next, left)) :
    next.path = store.path := by
  obtain ⟨rfl, -⟩ := perform_eq_ok (perform_of_apply applied)
  rfl

/-- What every change keeps, a sequence of changes keeps. -/
theorem applyAll_keeps {P : FileStore → FileTree → Prop}
    (step : ∀ edit ∈ edits, ∀ s f s' f', P s f → edit.apply (s, f) = .ok (s', f') → P s' f')
    (initial : P store files) (applied : applyAll edits (store, files) = .ok (next, left)) :
    P next left := by
  induction edits generalizing store files with
  | nil =>
    obtain ⟨rfl, rfl⟩ := Prod.mk.inj (Except.ok.inj applied)
    exact initial
  | cons edit rest ih =>
    obtain ⟨now, later⟩ := List.forall_mem_cons.mp step
    rw [applyAll, List.foldlM_cons] at applied
    cases first : edit.apply (store, files) with
    | error fault => simp [first, bind, Except.bind] at applied
    | ok state =>
      rw [first] at applied
      exact ih later (now store files state.1 state.2 initial first) applied

end FileStore

theorem Store.query_none (store : Store) : store.query none = store.pairs.toList := by
  simp [Store.query, selected]

/-- After changes that all succeed, the file opens again with the pairs of the store as their lines
are read: those whose keys begin with a hash sign are missing, and values have lost their blanks.
So all pairs are as they were exactly if none of them is of these kinds, and they are if no
such pair has been set. -/
theorem reopens_as_reread (opened : FileStore.load files path = .ok store)
    (applied : applyAll edits (store, files) = .ok (next, left)) :
    ∃ reopened, FileStore.load left path = .ok reopened ∧
      (Store.file reopened).query none = ((Store.file next).query none).filterMap reread ∧
      ((Store.file reopened).query none = (Store.file next).query none ↔
        ∀ pair ∈ (Store.file next).query none, Lasting pair) ∧
      ((∀ key value, .set key value ∈ edits → Lasting (Text.trim key, value)) →
        (Store.file reopened).query none = (Store.file next).query none) := by
  obtain ⟨rfl, pairs⟩ := FileStore.load_eq_ok opened
  have path : next.path = store.path :=
    FileStore.applyAll_keeps (P := fun s _ => s.path = store.path)
      (fun _ _ _ _ _ _ same first => (FileStore.path_apply first).trans same) rfl applied
  have kept : FileStore.Kept next left :=
    FileStore.applyAll_keeps (fun _ _ _ _ _ _ kept first => kept.apply first) (.of_load opened) applied
  obtain ⟨reopened, again, read⟩ := kept.reopens
  simp only [Store.query_none]
  refine ⟨reopened, path ▸ again, read, ?_, fun lasting => ?_⟩
  · rw [Store.pairs, read]
    exact filterMap_reread_eq_self
  · have all : ∀ pair ∈ next.pairs.toList, Lasting pair := by
      refine FileStore.applyAll_keeps (P := fun s _ => ∀ pair ∈ s.pairs.toList, Lasting pair)
        (fun edit inside s f s' f' before first pair member => ?_)
        (fun pair member => (pairs pair member).2) applied
      rcases FileStore.mem_apply first member with old | ⟨key, value, rfl, rfl⟩
      · exact before pair old
      · exact lasting key value inside
    exact read.trans (filterMap_reread_eq_self.mpr all)

theorem reopens_as_reread_mixed :
    FileStore.load (.emptyAt []) "app.cfg" = .ok ⟨"app.cfg", .empty⟩ ∧
    applyAll [.set "b" " 2", .set "#a" "1", .set "c" "3", .remove "c"]
        (⟨"app.cfg", .empty⟩, .emptyAt []) =
      .ok (⟨"app.cfg", .ofList [("#a", "1"), ("b", " 2")]⟩,
        .holding [("app.cfg", "#a=1\nb= 2\n")]) ∧
    ∃ reopened,
      FileStore.load (.holding [("app.cfg", "#a=1\nb= 2\n")])
        "app.cfg" = .ok reopened ∧
      (Store.file reopened).query none = [("b", "2")] := by
  have opened : FileStore.load (.emptyAt []) "app.cfg" = .ok ⟨"app.cfg", .empty⟩ := by decide +kernel
  have applied : applyAll [.set "b" " 2", .set "#a" "1", .set "c" "3", .remove "c"]
      (⟨"app.cfg", .empty⟩, .emptyAt []) =
    .ok (⟨"app.cfg", .ofList [("#a", "1"), ("b", " 2")]⟩,
      .holding [("app.cfg", "#a=1\nb= 2\n")]) := by decide +kernel
  obtain ⟨reopened, again, read, -⟩ := reopens_as_reread opened applied
  refine ⟨opened, applied, reopened, again, ?_⟩
  rw [read]
  decide +kernel

/-- A pair whose key begins with a hash sign is accepted, and gone when the file is opened again. -/
theorem hash_key_lost :
    ¬∀ (files left : FileTree) (path : String) (store next : FileStore) (edits : List Edit),
      FileStore.load files path = .ok store → applyAll edits (store, files) = .ok (next, left) →
      ∃ reopened, FileStore.load left path = .ok reopened ∧
        (Store.file reopened).query none = (Store.file next).query none := by
  intro same
  obtain ⟨reopened, again, same⟩ := same (.emptyAt [])
    (.holding [("app.cfg", "#a=1\n")]) "app.cfg" ⟨"app.cfg", .empty⟩
    ⟨"app.cfg", .ofList [("#a", "1")]⟩ [.set "#a" "1"] (by decide +kernel) (by decide +kernel)
  have empty : FileStore.load (.holding [("app.cfg", "#a=1\n")])
      "app.cfg" = .ok ⟨"app.cfg", .empty⟩ := by decide +kernel
  obtain rfl := Except.ok.inj (empty.symm.trans again)
  exact absurd same (by decide +kernel)

end CommandVerbs.Config
