import CommandVerbs.Proofs.Config.Reopening
import CommandVerbs.Proofs.Files.Rewriting

/-! What a file of any text keeps when it is written anew. The pairs that are read from it are written
as lines that are read as the same pairs, so only what a program removes is missing afterwards. -/
namespace CommandVerbs

namespace KeyMap

variable {α : Type}

theorem filter_all (m : KeyMap α) : m.filter (fun _ => true) = m :=
  ext_toList (List.filter_eq_self.mpr fun _ _ => rfl)

theorem erase_filter (m : KeyMap α) (keep : String → Bool) (key : String) :
    (m.erase key).filter keep = m.filter fun other => keep other && other != key :=
  ext_toList List.filter_filter

end KeyMap

namespace Config

variable {store : FileStore} {files : FileTree} {path text key : String}

/-- Pairs that are read as they are written make the same map again. -/
theorem readPairs_writePairs {m : KeyMap String}
    (held : ∀ pair ∈ m.toList, Writable pair ∧ Lasting pair) : readPairs (writePairs m) = m := by
  apply KeyMap.ext_toList
  rw [toList_readPairs_writePairs fun pair member => (held pair member).1]
  exact filterMap_reread_eq_self.mpr fun pair member => (held pair member).2

namespace FileStore

/-- The pairs of the store are those that are read from its file. -/
def OnFile (store : FileStore) (files : FileTree) : Prop :=
  ∃ text, files.read store.path = .ok text ∧ readPairs text = store.pairs

theorem OnFile.load (onFile : store.OnFile files) : load files store.path = .ok store := by
  obtain ⟨text, held, read⟩ := onFile
  have present : files.contains store.path := by
    unfold FileTree.read at held
    unfold FileTree.contains
    split at held <;> simp_all
  simp only [FileStore.load, present, if_true, held, read]

/-- A store that has found its file can save its pairs there. -/
theorem save_of_read (store : FileStore) (held : files.read store.path = .ok text) :
    ∃ left, store.save files = (left, .ok ()) ∧
      left.read store.path = .ok (writePairs store.pairs) := by
  have room : store.makeRoom files = (files, .ok ()) := by
    unfold makeRoom
    split
    · rfl
    · rename_i directory above
      obtain ⟨parent, named⟩ := Option.filter_eq_some_iff.mp above
      obtain ⟨place, -, located, -⟩ := FileTree.read_eq_ok held
      obtain ⟨above, found, present⟩ := FileTree.locate_parent located parent (by simpa using named)
      rw [FileTree.makeDirectories_present found present]
      rfl
  obtain ⟨left, written⟩ := FileTree.write_of_read held (.text (writePairs store.pairs))
  refine ⟨left, ?_, (FileTree.read_write written).2⟩
  rw [save, room]
  simp only [written]

theorem OnFile.remove (onFile : store.OnFile files) (key : String) :
    ∃ left, Edit.apply (store, files) (.remove key) = .ok (store.changed (.remove key), left) ∧
      (store.changed (.remove key)).OnFile left := by
  cases present : store.pairs.contains key with
  | false =>
    have same : store.changed (.remove key) = store := by
      rw [changed, Edit.effect, KeyMap.erase_absent present]
    rw [same]
    refine ⟨files, ?_, onFile⟩
    simp only [Edit.apply, remove_absent present, Except.map]
  | true =>
    obtain ⟨text, held, read⟩ := onFile
    obtain ⟨left, saved, written⟩ := save_of_read (store.changed (.remove key)) held
    refine ⟨left, ?_, _, written, ?_⟩
    · simp only [Edit.apply, remove_present present, saved, Except.map]
    · change readPairs (writePairs (store.pairs.erase key)) = store.pairs.erase key
      refine readPairs_writePairs fun pair member => ?_
      rw [← read] at member
      exact lasting_of_mem_readPairs (List.mem_of_mem_filter member)

/-- Keys are removed from the store and from its file alike. -/
theorem OnFile.removeAll (onFile : store.OnFile files) (keys : List String) :
    let last : FileStore := { store with pairs := store.pairs.filter fun key => !keys.contains key }
    ∃ left, applyAll (keys.map .remove) (store, files) = .ok (last, left) ∧ last.OnFile left := by
  induction keys generalizing store files with
  | nil =>
    have same : store.pairs.filter (fun key => !([] : List String).contains key) = store.pairs :=
      store.pairs.filter_all
    rw [same]
    exact ⟨files, rfl, onFile⟩
  | cons key rest ih =>
    obtain ⟨next, first, onFile⟩ := onFile.remove key
    obtain ⟨left, others, onFile⟩ := ih onFile
    have pairs : (store.changed (.remove key)).pairs.filter (fun other => !rest.contains other) =
        store.pairs.filter fun other => !(key :: rest).contains other := by
      change (store.pairs.erase key).filter _ = _
      rw [KeyMap.erase_filter]
      congr 1
      funext other
      by_cases here : other = key <;> simp [here]
    rw [pairs] at others onFile
    refine ⟨left, ?_, onFile⟩
    rw [List.map_cons, applyAll, List.foldlM_cons, first]
    exact others

end FileStore

/-- Whatever the text of a file, the pairs that are read from it are saved as a text from which the same
pairs are read, and once keys have been removed the file is opened with the other pairs. -/
theorem rewriting_keeps_pairs (text : String) :
    readPairs (writePairs (readPairs text)) = readPairs text ∧
    ∀ (files : FileTree) (path : String), files.read path = .ok text →
      let found : FileStore := ⟨path, readPairs text⟩
      FileStore.load files path = .ok found ∧
      (∃ left, found.save files = (left, .ok ()) ∧ FileStore.load left path = .ok found) ∧
      ∀ keys : List String,
        let last : FileStore := ⟨path, (readPairs text).filter fun key => !keys.contains key⟩
        ∃ left, applyAll (keys.map .remove) (found, files) = .ok (last, left) ∧
          FileStore.load left path = .ok last := by
  have again : readPairs (writePairs (readPairs text)) = readPairs text :=
    readPairs_writePairs fun pair => lasting_of_mem_readPairs
  refine ⟨again, fun files path held => ?_⟩
  intro found
  have onFile : found.OnFile files := ⟨text, held, rfl⟩
  refine ⟨onFile.load, ?_, fun keys => ?_⟩
  · obtain ⟨left, saved, written⟩ := FileStore.save_of_read found held
    have onFile : found.OnFile left := ⟨_, written, again⟩
    exact ⟨left, saved, onFile.load⟩
  · obtain ⟨left, removed, onFile⟩ := onFile.removeAll keys
    exact ⟨left, removed, onFile.load⟩

/-- A text that nobody has tidied up. -/
def untidy : String := "# settings\n\n a = 1\r\nb=2\nnot a pair\n=3\na=x=y \r"

theorem rewriting_keeps_pairs_untidy :
    let files : FileTree := .holding [("app.cfg", untidy)]
    files.read "app.cfg" = .ok untidy ∧ (readPairs untidy).toList = [("a", "x=y"), ("b", "2")] ∧
    ∃ left, applyAll [.remove "b", .remove "c"] (⟨"app.cfg", readPairs untidy⟩, files) =
        .ok (⟨"app.cfg", .ofList [("a", "x=y")]⟩, left) ∧
      FileStore.load left "app.cfg" = .ok ⟨"app.cfg", .ofList [("a", "x=y")]⟩ := by
  intro files
  have held : files.read "app.cfg" = .ok untidy := by decide +kernel
  obtain ⟨-, -, removed⟩ := (rewriting_keeps_pairs untidy).2 files "app.cfg" held
  obtain ⟨left, done, opened⟩ := removed ["b", "c"]
  have others : (readPairs untidy).filter (fun key => !(["b", "c"].contains key)) =
      .ofList [("a", "x=y")] := by decide +kernel
  rw [others] at done opened
  exact ⟨held, by decide +kernel, left, done, opened⟩

end Config

end CommandVerbs
