import CommandVerbs.Proofs.Config.Reopening
import CommandVerbs.Proofs.Files.Directories

/-! What is left after a change that fails. The files are as they were. A change that was refused has
done nothing, but one that could not be saved is in every answer afterwards, and the next change that
is saved writes it as well. -/
namespace CommandVerbs.Config

variable {store next : FileStore} {files left : FileTree} {edit : Edit} {fault : ConfigFault}

theorem makeRoom_spec (store : FileStore) (files : FileTree) :
    FileTree.Extended files (store.makeRoom files).1 ∧
      ∀ fault, (store.makeRoom files).2 = .error fault → ∃ reason, fault = .storage reason := by
  unfold FileStore.makeRoom
  split
  · exact ⟨.refl files, fun fault failed => by simp at failed⟩
  · rename_i directory _
    refine ⟨FileTree.makeDirectories_extended files directory, fun fault failed => ?_⟩
    rcases made : files.makeDirectories directory with ⟨ready, refusal | ⟨⟩⟩
    · rw [made] at failed
      exact ⟨_, (Except.error.inj failed).symm⟩
    · rw [made] at failed
      cases failed

/-- What cannot be saved is a fault of the storage and leaves all files as they are. -/
theorem save_eq_error (failed : store.save files = (left, .error fault)) :
    (∃ reason, fault = .storage reason) ∧ FileTree.Extended files left := by
  obtain ⟨room, refusal⟩ := makeRoom_spec store files
  unfold FileStore.save at failed
  rcases made : store.makeRoom files with ⟨ready, unmade | ⟨⟩⟩
  · rw [made] at failed room refusal
    obtain ⟨rfl, rest⟩ := Prod.mk.inj failed
    exact ⟨refusal _ rest, room⟩
  · rw [made] at failed room
    simp only at failed
    split at failed
    · simp at failed
    · obtain ⟨rfl, rest⟩ := Prod.mk.inj failed
      exact ⟨⟨_, (Except.error.inj rest).symm⟩, room⟩

/-- Two stores answer every question alike. -/
def SameAnswers (first second : Store) : Prop :=
  (∀ key, first.get? key = second.get? key) ∧ ∀ filter, first.query filter = second.query filter

theorem sameAnswers_iff {first second : Store} :
    SameAnswers first second ↔ first.pairs = second.pairs := by
  constructor
  · intro same
    have all := same.2 none
    rw [Store.query_none, Store.query_none] at all
    exact KeyMap.ext_toList all
  · intro same
    exact ⟨fun key => by rw [Store.get?, Store.get?, same], fun filter => by
      rw [Store.query, Store.query, same]⟩

/-- What a change that could not be saved leaves behind in memory. -/
structure Unsaved (edit : Edit) (store next : FileStore) : Prop where
  changed : next = store.changed edit
  /-- Only a pair that was there already can be set without a trace. -/
  answers : SameAnswers (.file next) (.file store) ↔
    ∃ key value, edit = .set key value ∧ store.pairs.get? (Text.trim key) = some value
  /-- The next change that is saved writes this one too. -/
  written : ∀ {later : Edit} {files left : FileTree} {last : FileStore},
    later.perform next files = (last, left, .ok ()) → ¬later.Idle next.pairs →
      left.read store.path = .ok (writePairs (later.effect (edit.effect store.pairs)))
  /-- A removal that is tried again finds nothing to remove. -/
  retried : ∀ key, edit = .remove key → ∀ files, next.remove files key = (next, files, .ok false)

theorem unsaved_of_changed (busy : ¬edit.Idle store.pairs) :
    Unsaved edit store (store.changed edit) where
  changed := rfl
  answers := by
    rw [sameAnswers_iff]
    exact effect_eq_self.trans (or_iff_right busy)
  written := by
    intro later files left last done notIdle
    obtain ⟨rfl, ⟨idle, -⟩ | ⟨-, -, saved⟩⟩ := perform_eq_ok done
    · exact absurd idle notIdle
    · exact (FileStore.read_of_save saved).2
  retried := by
    rintro key rfl files
    have gone : (store.changed (.remove key)).pairs.contains key = false := by
      rw [KeyMap.contains, FileStore.changed, Edit.effect, KeyMap.get?_erase_same]
      rfl
    simp [FileStore.remove, gone]

/-- A change that fails leaves every file as it is. If it was refused, the store is as it was too;
if it could not be saved, the store has changed all the same. -/
theorem perform_eq_error (failed : edit.perform store files = (next, left, .error fault)) :
    (∀ place content mode, left.node? place = some (.file content mode) ↔
      files.node? place = some (.file content mode)) ∧
    ((∃ reason, fault = .malformed reason ∧ next = store ∧ left = files) ∨
      (∃ reason, fault = .storage reason) ∧ Unsaved edit store next) := by
  rcases perform_cases store files edit with ⟨reason, refused⟩ | ⟨_, still⟩ | ⟨busy, -, made⟩
  · rw [refused] at failed
    obtain ⟨rfl, rfl, same⟩ := by simpa using failed
    exact ⟨fun _ _ _ => Iff.rfl, .inl ⟨reason, same.symm, rfl, rfl⟩⟩
  · rw [still] at failed
    simp at failed
  · rw [made] at failed
    obtain ⟨rfl, unsaved⟩ := Prod.mk.inj failed
    obtain ⟨storage, extended⟩ := save_eq_error unsaved
    exact ⟨fun place content mode => extended.file place, .inr ⟨storage, unsaved_of_changed busy⟩⟩

/-- A tree with a file at the name of a directory. -/
def obstructed : FileTree where
  workingDirectory := []
  nodes := [(["etc"], .file (.text "") FileTree.plainMode)]

theorem perform_eq_error_obstructed :
    let store : FileStore := ⟨"etc/app.cfg", .ofList [("a", "1")]⟩
    let next : FileStore := ⟨"etc/app.cfg", .ofList [("a", "1"), ("b", "2")]⟩
    Edit.perform store obstructed (.set "b" "2") =
      (next, obstructed, .error (.storage "etc: File exists (os error 17)")) ∧
    ¬SameAnswers (.file next) (.file store) ∧
    ∃ last left, Edit.perform next (.emptyAt []) (.set "c" "3") = (last, left, .ok ()) ∧
      left.read "etc/app.cfg" = .ok "a=1\nb=2\nc=3\n" := by
  intro store next
  have failed : Edit.perform store obstructed (.set "b" "2") =
      (next, obstructed, .error (.storage "etc: File exists (os error 17)")) := by decide +kernel
  obtain ⟨-, ⟨_, malformed, -⟩ | ⟨-, unsaved⟩⟩ := perform_eq_error failed
  · cases malformed
  have done : Edit.perform next (.emptyAt []) (.set "c" "3") =
      (next.changed (.set "c" "3"), ((next.changed (.set "c" "3")).save (.emptyAt [])).1, .ok ()) := by
    decide +kernel
  refine ⟨failed, ?_, _, _, done, ?_⟩
  · rw [unsaved.answers]
    rintro ⟨key, value, same, present⟩
    obtain ⟨rfl, rfl⟩ := Edit.set.inj same
    exact absurd present (by decide +kernel)
  · have written := unsaved.written done (not_idle_set _ _ _)
    exact written.trans (by decide +kernel)

/-- A store answers with a pair that it failed to save. -/
theorem answers_with_unsaved :
    ¬∀ (store next : FileStore) (files left : FileTree) (edit : Edit) (fault : ConfigFault),
      edit.perform store files = (next, left, .error fault) →
      SameAnswers (.file next) (.file store) := by
  intro same
  have unchanged := same ⟨"etc/app.cfg", .empty⟩ ⟨"etc/app.cfg", .ofList [("k", "v")]⟩ obstructed
    obstructed (.set "k" "v") (.storage "etc: File exists (os error 17)") (by decide +kernel)
  exact absurd (unchanged.1 "k") (by decide +kernel)

end CommandVerbs.Config
