import CommandVerbs.Proofs.Config.SharedFile
import CommandVerbs.Proofs.Config.UnsavedChanges

/-! What a store answers after any changes that have not failed to be saved: under each key, what the
last successful change of the key has left there. A store in memory binds the keys it is given. A store
in a file binds them trimmed, but looks them up and removes them as they are given. -/
namespace CommandVerbs.Config

/-- What a change leaves under its key. -/
def Edit.bound? : Edit → Option String
  | .set _ value => some value
  | .remove _ => none

/-- The key that a change names. -/
def Edit.named : Edit → String
  | .set key _ | .remove key => key

variable {store next last : Store} {files left final : FileTree} {edit : Edit} {edits : List Edit}
  {verdict : Except ConfigFault Unit} {key value : String}

namespace Store

/-- The key that is bound when the given one is set. -/
def stored : Store → String → String
  | .memory _, key => key
  | .file _, key => Text.trim key

/-- The key that a change is about. -/
def target (store : Store) : Edit → String
  | .set key _ => store.stored key
  | .remove key => key

/-- The store, the files and the verdict after a change. -/
def perform (store : Store) (files : FileTree) : Edit → Store × FileTree × Except ConfigFault Unit
  | .set key value => store.set files key value
  | .remove key =>
    match store.remove files key with
    | (next, left, result) => (next, left, result.map fun _ => ())

/-- The store with what a change makes of its pairs. -/
def changed (edit : Edit) : Store → Store
  | .memory pairs =>
    .memory (match edit with
      | .set key value => pairs.insert key value
      | .remove key => pairs.erase key)
  | .file store => .file (store.changed edit)

theorem perform_file (store : FileStore) (files : FileTree) (edit : Edit) :
    (Store.file store).perform files edit =
      (.file (edit.perform store files).1, (edit.perform store files).2) := by
  cases edit <;> rfl

/-- A change is refused and leaves the store as it was, or else is made, whether or not it can be
saved. -/
theorem perform_cases (made : store.perform files edit = (next, left, verdict)) :
    (∃ reason, verdict = .error (.malformed reason)) ∧ next = store ∨
    (verdict = .ok () ∨ ∃ reason, verdict = .error (.storage reason)) ∧ next = store.changed edit := by
  cases store with
  | memory pairs =>
    cases edit with
    | set key value =>
      by_cases blank : Text.trim key = ""
      · simp only [perform, Store.set, setPair, blank, if_true] at made
        obtain ⟨rfl, -, rfl⟩ := by simpa using made
        exact .inl ⟨⟨_, rfl⟩, rfl⟩
      · simp only [perform, Store.set, setPair, blank, if_false] at made
        obtain ⟨rfl, -, rfl⟩ := by simpa using made
        exact .inr ⟨.inl rfl, rfl⟩
    | remove key =>
      obtain ⟨rfl, rest⟩ := Prod.mk.inj made
      obtain ⟨-, rfl⟩ := Prod.mk.inj rest
      exact .inr ⟨.inl rfl, rfl⟩
  | file store =>
    rw [perform_file] at made
    rcases Config.perform_cases store files edit with ⟨reason, refused⟩ | ⟨idle, still⟩ | ⟨-, -, busy⟩
    · rw [refused] at made
      obtain ⟨rfl, rest⟩ := Prod.mk.inj made
      obtain ⟨-, rfl⟩ := Prod.mk.inj rest
      exact .inl ⟨⟨reason, rfl⟩, rfl⟩
    · rw [still] at made
      obtain ⟨rfl, rest⟩ := Prod.mk.inj made
      obtain ⟨-, rfl⟩ := Prod.mk.inj rest
      refine .inr ⟨.inl rfl, ?_⟩
      rw [changed, FileStore.changed, effect_idle idle]
    · rw [busy] at made
      obtain ⟨rfl, saved⟩ := Prod.mk.inj made
      refine .inr ⟨?_, rfl⟩
      cases verdict with
      | ok => exact .inl rfl
      | error fault =>
        obtain ⟨⟨reason, rfl⟩, -⟩ := save_eq_error saved
        exact .inr ⟨reason, rfl⟩

theorem get?_changed_target (store : Store) (edit : Edit) :
    (store.changed edit).get? (store.target edit) = edit.bound? := by
  cases store <;> cases edit
  · exact KeyMap.get?_insert_same _ _ _
  · exact KeyMap.get?_erase_same _ _
  · exact KeyMap.get?_insert_same _ _ _
  · exact KeyMap.get?_erase_same _ _

theorem get?_changed_other (other : store.target edit ≠ key) :
    (store.changed edit).get? key = store.get? key := by
  cases store with
  | memory pairs =>
    cases edit with
    | set name value => exact KeyMap.get?_insert_other _ _ other.symm
    | remove name => exact KeyMap.get?_erase_other _ other.symm
  | file store =>
    have apart : edit.key ≠ key := by
      cases edit <;> exact other
    exact get?_effect_other store.pairs apart

theorem target_changed (store : Store) (edit : Edit) : (store.changed edit).target = store.target := by
  cases store <;> rfl

theorem target_perform (made : store.perform files edit = (next, left, verdict)) :
    next.target = store.target := by
  rcases perform_cases made with ⟨-, rfl⟩ | ⟨-, rfl⟩
  · rfl
  · exact target_changed store edit

/-- Whatever becomes of a change, all other keys keep their values. -/
theorem get?_perform_other (made : store.perform files edit = (next, left, verdict))
    (other : store.target edit ≠ key) : next.get? key = store.get? key := by
  rcases perform_cases made with ⟨-, rfl⟩ | ⟨-, rfl⟩
  · rfl
  · exact get?_changed_other other

/-- A removal that does not fail to be saved tells whether the key had a value. -/
theorem remove_verdict (store : Store) (files : FileTree) (key : String) :
    (store.remove files key).2.2 = .ok (store.get? key).isSome ∨
      ∃ reason, (store.remove files key).2.2 = .error (.storage reason) := by
  cases store with
  | memory pairs => exact .inl rfl
  | file store =>
    cases present : store.pairs.contains key with
    | false =>
      refine .inl ?_
      have absent : (store.pairs.get? key).isSome = false := present
      simp only [Store.remove, FileStore.remove_absent present, Store.get?, Store.pairs, absent]
    | true =>
      have there : (store.pairs.get? key).isSome = true := present
      rcases saved : (store.changed (.remove key)).save files with ⟨written, fault | ⟨⟩⟩
      · obtain ⟨⟨reason, rfl⟩, -⟩ := save_eq_error saved
        refine .inr ⟨reason, ?_⟩
        simp only [Store.remove, FileStore.remove_present present, saved, Except.map]
      · refine .inl ?_
        simp only [Store.remove, FileStore.remove_present present, saved, Except.map, Store.get?,
          Store.pairs, there]

end Store

/-! ## Runs of changes -/

/-- Changes in the order in which they were made, each with its verdict. -/
abbrev History := List (Edit × Except ConfigFault Unit)

variable {history later : History} {name : Edit → String} {turn : Edit × Except ConfigFault Unit}

/-- The store and the files after changes, and what has become of each. -/
def Store.performAll (store : Store) (files : FileTree) :
    List Edit → Store × FileTree × History
  | [] => (store, files, [])
  | edit :: rest =>
    match store.perform files edit with
    | (next, left, verdict) =>
      match next.performAll left rest with
      | (last, final, later) => (last, final, (edit, verdict) :: later)

/-- No change could not be saved. -/
def Saved (history : History) : Prop :=
  ∀ turn ∈ history, ∀ reason, turn.2 ≠ .error (.storage reason)

/-- No change of the key has succeeded. -/
def Untouched (name : Edit → String) (key : String) (history : History) : Prop :=
  ∀ turn ∈ history, turn.2 = .ok () → name turn.1 ≠ key

/-- The last change of the key that has succeeded has set it to the value. -/
def LastSet (name : Edit → String) (key value : String) (history : History) : Prop :=
  ∃ before given after, history = before ++ (.set given value, .ok ()) :: after ∧
    name (.set given value) = key ∧ Untouched name key after

theorem untouched_cons : Untouched name key (turn :: later) ↔
    (turn.2 = .ok () → name turn.1 ≠ key) ∧ Untouched name key later :=
  List.forall_mem_cons

theorem lastSet_cons : LastSet name key value (turn :: later) ↔
    LastSet name key value later ∨ Untouched name key later ∧
      ∃ given, turn = (.set given value, .ok ()) ∧ name (.set given value) = key := by
  constructor
  · rintro ⟨before, given, after, split, same, untouched⟩
    cases before with
    | nil =>
      obtain ⟨rfl, rfl⟩ := List.cons.inj split
      exact .inr ⟨untouched, given, rfl, same⟩
    | cons first before =>
      obtain ⟨-, rfl⟩ := List.cons.inj split
      exact .inl ⟨before, given, after, rfl, same, untouched⟩
  · rintro (⟨before, given, after, rfl, same, untouched⟩ | ⟨untouched, given, rfl, same⟩)
    · exact ⟨turn :: before, given, after, rfl, same, untouched⟩
    · exact ⟨[], given, later, rfl, same, untouched⟩

/-- The changes are about the same keys under two ways of naming these. -/
theorem lastSet_congr {other : Edit → String} (same : ∀ turn ∈ history, name turn.1 = other turn.1) :
    (LastSet name key value history ↔ LastSet other key value history) ∧
      (Untouched name key history ↔ Untouched other key history) := by
  induction history with
  | nil => simp [LastSet, Untouched]
  | cons turn later ih =>
    obtain ⟨here, same⟩ := List.forall_mem_cons.mp same
    obtain ⟨last, untouched⟩ := ih same
    rw [lastSet_cons, lastSet_cons, untouched_cons, untouched_cons, last, untouched, here]
    refine ⟨or_congr_right (and_congr_right fun _ => exists_congr fun given => ?_), Iff.rfl⟩
    refine and_congr_right fun set => ?_
    rw [set] at here
    rw [here]

namespace Store

theorem performAll_nil (ran : store.performAll files [] = (last, final, history)) :
    store = last ∧ files = final ∧ history = [] := by
  obtain ⟨same, rest⟩ := Prod.mk.inj ran
  obtain ⟨untouched, none⟩ := Prod.mk.inj rest
  exact ⟨same, untouched, none.symm⟩

theorem performAll_cons (ran : store.performAll files (edit :: edits) = (last, final, history)) :
    ∃ next left verdict later, store.perform files edit = (next, left, verdict) ∧
      next.performAll left edits = (last, final, later) ∧ history = (edit, verdict) :: later := by
  rcases first : store.perform files edit with ⟨next, left, verdict⟩
  rcases others : next.performAll left edits with ⟨last', final', later⟩
  simp only [performAll, first, others] at ran
  obtain ⟨rfl, rest⟩ := Prod.mk.inj ran
  obtain ⟨rfl, rfl⟩ := Prod.mk.inj rest
  exact ⟨next, left, verdict, later, rfl, others, rfl⟩

/-- What a run of changes keeps if every change keeps it. -/
theorem performAll_keeps {P : Store → FileTree → Prop}
    (step : ∀ edit ∈ edits, ∀ s f s' f' v, P s f → s.perform f edit = (s', f', v) → P s' f')
    (initial : P store files) (ran : store.performAll files edits = (last, final, history)) :
    P last final := by
  induction edits generalizing store files history with
  | nil =>
    obtain ⟨rfl, rfl, -⟩ := performAll_nil ran
    exact initial
  | cons edit rest ih =>
    obtain ⟨now, step⟩ := List.forall_mem_cons.mp step
    obtain ⟨next, left, verdict, later, first, others, rfl⟩ := performAll_cons ran
    exact ih step (now store files next left verdict initial first) others

theorem mem_of_performAll (ran : store.performAll files edits = (last, final, history)) :
    ∀ turn ∈ history, turn.1 ∈ edits := by
  induction edits generalizing store files history with
  | nil =>
    obtain ⟨-, -, rfl⟩ := performAll_nil ran
    simp
  | cons edit rest ih =>
    obtain ⟨next, left, verdict, later, -, others, rfl⟩ := performAll_cons ran
    exact List.forall_mem_cons.mpr
      ⟨List.mem_cons_self, fun turn member => List.mem_cons_of_mem _ (ih others turn member)⟩

theorem target_performAll (ran : store.performAll files edits = (last, final, history)) :
    last.target = store.target :=
  performAll_keeps (P := fun s _ => s.target = store.target)
    (fun _ _ _ _ _ _ _ same made => (target_perform made).trans same) rfl ran

/-- Under every key is what the last successful change of it has left there. -/
theorem get?_performAll (ran : store.performAll files edits = (last, final, history))
    (saved : Saved history) :
    last.get? key = some value ↔ LastSet store.target key value history ∨
      Untouched store.target key history ∧ store.get? key = some value := by
  induction edits generalizing store files history with
  | nil =>
    obtain ⟨rfl, -, rfl⟩ := performAll_nil ran
    simp [LastSet, Untouched]
  | cons edit rest ih =>
    obtain ⟨next, left, verdict, later, first, others, rfl⟩ := performAll_cons ran
    obtain ⟨now, saved⟩ := List.forall_mem_cons.mp saved
    rw [ih others saved, target_perform first, lastSet_cons, untouched_cons, or_assoc]
    refine or_congr_right ?_
    rcases perform_cases first with ⟨⟨reason, rfl⟩, rfl⟩ | ⟨rfl | ⟨reason, rfl⟩, rfl⟩
    · simp
    · by_cases here : store.target edit = key
      · subst here
        rw [get?_changed_target]
        cases edit <;> simp [Edit.bound?, target, eq_comm]
      · rw [get?_changed_other here]
        have elsewhere : ∀ given, edit = .set given value → store.target (.set given value) ≠ key :=
          fun given set same => here (set ▸ same)
        simp only [Prod.mk.injEq, and_true, here, ne_eq, not_false_eq_true, implies_true, true_and]
        rw [or_iff_right]
        rintro ⟨-, given, set, same⟩
        exact elsewhere given set same
    · exact absurd rfl (now reason)

/-- A store before any change: any pairs in memory, or those that were found in a file. -/
inductive Opened (files : FileTree) : Store → Prop where
  | memory (pairs : KeyMap String) : Opened files (.memory pairs)
  | file {path : String} {store : FileStore} :
    FileStore.load files path = .ok store → Opened files (.file store)

/-- Every key that has a value is one that setting it would bind. -/
def Settled (store : Store) : Prop := ∀ key, store.stored key ≠ key → store.get? key = none

theorem stored_stored (store : Store) (key : String) :
    store.stored (store.stored key) = store.stored key := by
  cases store
  · rfl
  · exact Text.trim_trim key

theorem Opened.settled (opened : store.Opened files) : store.Settled := by
  intro key untrimmed
  cases opened with
  | memory => exact absurd rfl untrimmed
  | file loaded =>
    rename_i store
    rw [Option.eq_none_iff_forall_ne_some]
    intro value found
    obtain ⟨writable, -⟩ := (FileStore.load_eq_ok loaded).2 _ (KeyMap.mem_toList_iff.mpr found)
    refine untrimmed ?_
    rw [stored, Text.trim, writable.trimmed, String.ofList_toList]

theorem stored_perform (made : store.perform files edit = (next, left, verdict)) :
    next.stored = store.stored := by
  have same := target_perform made
  funext key
  exact congrFun same (.set key "")

theorem Settled.perform (settled : store.Settled)
    (made : store.perform files edit = (next, left, verdict)) : next.Settled := by
  intro key untrimmed
  rw [stored_perform made] at untrimmed
  by_cases here : store.target edit = key
  · cases edit with
    | set name value =>
      obtain rfl : store.stored name = key := here
      exact absurd (store.stored_stored name) untrimmed
    | remove name =>
      obtain rfl : name = key := here
      rcases perform_cases made with ⟨-, rfl⟩ | ⟨-, rfl⟩
      · exact settled name untrimmed
      · exact get?_changed_target store (.remove name)
  · rw [get?_perform_other made here]
    exact settled key untrimmed

end Store

/-- After changes that have not failed to be saved, a key has a value exactly if the last successful
change of the key that the store binds has set it to the value, or no such change has been made and it
had the value before. So it is with the keys as they are given if each of them is the one that is bound,
as it always is in memory; but a key that is not is never found. A removal tells whether the key had a
value, and no change touches other keys than the one that it is about. -/
theorem answers_last_change (opened : store.Opened files)
    (ran : store.performAll files edits = (last, final, history)) (saved : Saved history) :
    (∀ key value, last.get? key = some value ↔ LastSet store.target key value history ∨
      Untouched store.target key history ∧ store.get? key = some value) ∧
    ((∀ key value, .set key value ∈ edits → store.stored key = key) →
      ∀ key value, last.get? key = some value ↔ LastSet Edit.named key value history ∨
        Untouched Edit.named key history ∧ store.get? key = some value) ∧
    (∀ key, store.stored key ≠ key → last.get? key = none) ∧
    (∀ key, (last.remove final key).2.2 = .ok (last.get? key).isSome ∨
      ∃ reason, (last.remove final key).2.2 = .error (.storage reason)) ∧
    ∀ edit key, store.target edit ≠ key → (last.perform final edit).1.get? key = last.get? key := by
  have found : ∀ key value, last.get? key = some value ↔ LastSet store.target key value history ∨
      Untouched store.target key history ∧ store.get? key = some value :=
    fun key value => Store.get?_performAll ran saved
  refine ⟨found, fun bound key value => ?_, fun key untrimmed => ?_, last.remove_verdict final,
    fun edit key other => ?_⟩
  · have same : ∀ turn ∈ history, store.target turn.1 = turn.1.named := by
      rintro ⟨edit, verdict⟩ member
      cases edit with
      | set key value => exact bound key value (Store.mem_of_performAll ran _ member)
      | remove key => rfl
    obtain ⟨set, untouched⟩ := lastSet_congr same
    rw [found, set, untouched]
  · have settled : last.Settled ∧ last.stored = store.stored :=
      Store.performAll_keeps (P := fun s _ => s.Settled ∧ s.stored = store.stored)
        (fun _ _ _ _ _ _ _ kept made =>
          ⟨kept.1.perform made, (Store.stored_perform made).trans kept.2⟩)
        ⟨opened.settled, rfl⟩ ran
    exact settled.1 key (settled.2 ▸ untrimmed)
  · refine Store.get?_perform_other rfl ?_
    rw [Store.target_performAll ran]
    exact other

/-- A file store that has found no file. -/
def unwritten : Store := .file ⟨"app.cfg", .empty⟩

theorem exists_performAll (verdicts : (store.performAll files edits).2.2 = history) :
    ∃ last final, store.performAll files edits = (last, final, history) :=
  ⟨_, _, by rw [← verdicts]⟩

theorem answers_last_change_trimmed :
    let history : History := [(.set " a" "1", .ok ()), (.set "b" "2", .ok ()),
      (.set "a=c" "3", .error (.malformed "invalid key \"a=c\"")), (.remove " a", .ok ()),
      (.remove "b", .ok ())]
    Saved history ∧ ∃ last final,
      unwritten.performAll (.emptyAt []) (history.map (·.1)) = (last, final, history) ∧
        last.get? "a" = some "1" ∧ last.get? " a" = none := by
  intro history
  obtain ⟨last, final, ran⟩ : ∃ last final,
      unwritten.performAll (.emptyAt []) (history.map (·.1)) = (last, final, history) :=
    exists_performAll (by decide +kernel)
  have opened : unwritten.Opened (.emptyAt []) := .file load_nothing
  have saved : Saved history := by
    simp [history, Saved]
  obtain ⟨found, -, untrimmed, -⟩ := answers_last_change opened ran saved
  have a : unwritten.stored " a" = "a" := by decide +kernel
  have b : unwritten.stored "b" = "b" := by decide +kernel
  refine ⟨saved, last, final, ran, (found "a" "1").mpr (.inl ?_), untrimmed " a" ?_⟩
  · exact ⟨[], " a", _, rfl, a, by simp [Untouched, Store.target, b]⟩
  · rw [a]
    decide

/-- What has been set under a key with a blank before it is not found under that key. -/
theorem untrimmed_key_not_found :
    ¬∀ (files final : FileTree) (store last : Store) (edits : List Edit) (history : History),
      store.Opened files → store.performAll files edits = (last, final, history) → Saved history →
      ∀ key value, last.get? key = some value ↔ LastSet Edit.named key value history ∨
        Untouched Edit.named key history ∧ store.get? key = some value := by
  intro same
  obtain ⟨last, final, ran⟩ : ∃ last final, unwritten.performAll (.emptyAt []) [.set " a" "1"] =
      (last, final, [(.set " a" "1", .ok ())]) := exists_performAll (by decide +kernel)
  have absent : last.get? " a" = none := by
    rw [show last = (unwritten.performAll (.emptyAt []) [.set " a" "1"]).1 by rw [ran]]
    decide +kernel
  have set : LastSet Edit.named " a" "1" [(.set " a" "1", .ok ())] :=
    ⟨[], " a", [], rfl, rfl, by simp [Untouched]⟩
  have found := (same _ _ _ _ _ _ (.file load_nothing) ran (by simp [Saved]) " a" "1").mpr (.inl set)
  rw [absent] at found
  contradiction

end CommandVerbs.Config
