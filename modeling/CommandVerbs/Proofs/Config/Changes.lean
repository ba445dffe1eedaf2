import CommandVerbs.Config.Store
import CommandVerbs.Proofs.Config.PairLines

/-! Changes to the pairs of a file. A change that is not refused is made in memory first and then
saved, so what it makes of the pairs does not depend on the files, nor on whether it can be saved. -/
namespace CommandVerbs.Config

/-- A change to the pairs of a file. -/
inductive Edit where
  | set (key value : String)
  | remove (key : String)
  deriving DecidableEq, Repr

variable {store next : FileStore} {files left : FileTree} {edit : Edit} {key value : String}
  {pairs : KeyMap String}

/-- The store, the files and the verdict after a change. -/
def Edit.perform (store : FileStore) (files : FileTree) :
    Edit → FileStore × FileTree × Except ConfigFault Unit
  | .set key value => store.set files key value
  | .remove key =>
    match store.remove files key with
    | (next, left, result) => (next, left, result.map fun _ => ())

/-- What a change makes of the pairs. -/
def Edit.effect (pairs : KeyMap String) : Edit → KeyMap String
  | .set key value => pairs.insert (Text.trim key) value
  | .remove key => pairs.erase key

/-- The removal of a key that is not there. -/
def Edit.Idle (pairs : KeyMap String) (edit : Edit) : Prop :=
  ∃ key, edit = .remove key ∧ pairs.contains key = false

theorem not_idle_set (pairs : KeyMap String) (key value : String) :
    ¬(Edit.set key value).Idle pairs := by
  rintro ⟨_, removal, -⟩
  contradiction

theorem idle_remove : (Edit.remove key).Idle pairs ↔ pairs.contains key = false := by
  constructor
  · rintro ⟨_, same, absent⟩
    obtain rfl := Edit.remove.inj same
    exact absent
  · exact fun absent => ⟨key, rfl, absent⟩

instance (pairs : KeyMap String) : DecidablePred (Edit.Idle pairs)
  | .set key value => isFalse (not_idle_set pairs key value)
  | .remove _ => decidable_of_iff _ idle_remove.symm

/-- What a change binds fits on a line. -/
def Edit.Fits : Edit → Prop
  | .set key value => Writable (Text.trim key, value)
  | .remove _ => True

/-- The store with the pairs that a change makes. -/
def FileStore.changed (store : FileStore) (edit : Edit) : FileStore :=
  { store with pairs := edit.effect store.pairs }

/-- What is accepted fits on a line. -/
theorem FileStore.writable_of_refusal?
    (accepted : refusal? (Text.trimChars key.toList) value.toList = none) :
    Writable (Text.trim key, value) := by
  unfold refusal? at accepted
  split at accepted
  · contradiction
  rename_i fits
  split at accepted
  · contradiction
  rename_i single
  simp only [Bool.or_eq_true, List.isEmpty_iff, List.contains_iff_mem, not_or] at fits single
  obtain ⟨⟨named, undivided⟩, keyLine⟩ := fits
  have chars : (Text.trim key).toList = Text.trimChars key.toList := String.toList_ofList
  refine ⟨?_, ?_, ?_, ?_, single⟩ <;> rw [chars]
  · exact Text.trimChars_trimChars key.toList
  · exact named
  · exact undivided
  · exact keyLine

theorem changed_writable (writable : ∀ pair ∈ store.pairs.toList, Writable pair) (fits : edit.Fits) :
    ∀ pair ∈ (store.changed edit).pairs.toList, Writable pair := by
  intro pair member
  cases edit with
  | set key value =>
    rcases mem_insertEntry member with rfl | old
    · exact fits
    · exact writable pair old
  | remove key => exact writable pair (List.mem_of_mem_filter member)

theorem effect_idle (idle : edit.Idle pairs) : edit.effect pairs = pairs := by
  obtain ⟨key, rfl, absent⟩ := idle
  exact KeyMap.erase_absent absent

theorem FileStore.remove_absent (absent : store.pairs.contains key = false) (files : FileTree) :
    store.remove files key = (store, files, .ok false) := by
  simp only [FileStore.remove, absent, Bool.false_eq_true, if_false]

theorem FileStore.remove_present (present : store.pairs.contains key = true) (files : FileTree) :
    store.remove files key = (store.changed (.remove key),
      ((store.changed (.remove key)).save files).1,
      ((store.changed (.remove key)).save files).2.map fun _ => true) := by
  simp only [FileStore.remove, present, if_true]
  rfl

/-- A change is refused, or has nothing to do, or else is made in memory and then saved. -/
theorem perform_cases (store : FileStore) (files : FileTree) (edit : Edit) :
    (∃ reason, edit.perform store files = (store, files, .error (.malformed reason))) ∨
    edit.Idle store.pairs ∧ edit.perform store files = (store, files, .ok ()) ∨
    ¬edit.Idle store.pairs ∧ edit.Fits ∧
      edit.perform store files = (store.changed edit, (store.changed edit).save files) := by
  cases edit with
  | set key value =>
    cases accepted : FileStore.refusal? (Text.trimChars key.toList) value.toList with
    | some reason =>
      refine .inl ⟨reason, ?_⟩
      simp only [Edit.perform, FileStore.set, accepted]
    | none =>
      refine .inr (.inr ⟨not_idle_set _ _ _, FileStore.writable_of_refusal? accepted, ?_⟩)
      simp only [Edit.perform, FileStore.set, accepted]
      rfl
  | remove key =>
    cases present : store.pairs.contains key with
    | false =>
      refine .inr (.inl ⟨idle_remove.mpr present, ?_⟩)
      simp only [Edit.perform, FileStore.remove_absent present, Except.map]
    | true =>
      refine .inr (.inr ⟨?_, trivial, ?_⟩)
      · rw [idle_remove, present]
        simp
      -- only whether the removal could be saved is left of its verdict
      · simp only [Edit.perform, FileStore.remove_present present]
        rcases (store.changed (.remove key)).save files with ⟨made, fault | ⟨⟩⟩ <;> rfl

/-- A change that succeeds is saved, unless there was nothing to do. -/
theorem perform_eq_ok (done : edit.perform store files = (next, left, .ok ())) :
    next = store.changed edit ∧
      (edit.Idle store.pairs ∧ left = files ∨
        ¬edit.Idle store.pairs ∧ edit.Fits ∧ next.save files = (left, .ok ())) := by
  rcases perform_cases store files edit with ⟨_, refused⟩ | ⟨idle, still⟩ | ⟨busy, fits, made⟩
  · rw [refused] at done
    simp at done
  · rw [still] at done
    obtain ⟨rfl, rfl, -⟩ := by simpa using done
    refine ⟨?_, .inl ⟨idle, rfl⟩⟩
    rw [FileStore.changed, effect_idle idle]
  · rw [made] at done
    obtain ⟨rfl, saved⟩ := Prod.mk.inj done
    exact ⟨rfl, .inr ⟨busy, fits, saved⟩⟩

theorem effect_eq_self : edit.effect pairs = pairs ↔
    edit.Idle pairs ∨ ∃ key value, edit = .set key value ∧ pairs.get? (Text.trim key) = some value := by
  constructor
  · intro same
    cases edit with
    | set key value =>
      refine .inr ⟨key, value, rfl, ?_⟩
      rw [← same]
      exact KeyMap.get?_insert_same pairs _ _
    | remove key =>
      refine .inl ⟨key, rfl, ?_⟩
      rw [← same, KeyMap.contains, Edit.effect, KeyMap.get?_erase_same]
      rfl
  · rintro (idle | ⟨key, value, rfl, present⟩)
    · exact effect_idle idle
    · exact KeyMap.insert_present present

end CommandVerbs.Config
