import CommandVerbs.Proofs.Config.HandEdited
import CommandVerbs.Proofs.Config.LastChange

/-! Pairs that are bound one after another. Of the pairs with one key the last counts, all other keys
keep their values, and the first pair that a store refuses ends the sequence. What is refused depends on
the pair and the kind of store alone, and a store that can be saved can be saved after every change. -/
namespace CommandVerbs.Config

variable {stored : String → String} {pairs more : List (String × String)} {pair : String × String}
  {before after : String → Option String} {key value : String} {store : Store} {edit : Edit}
  {files left : FileTree} {fault : ConfigFault}

/-- The values under keys before and after pairs have been bound in order, each under the key that
`stored` makes of its own. -/
structure BoundInOrder (stored : String → String) (pairs : List (String × String))
    (before after : String → Option String) : Prop where
  last : ∀ front pair back, pairs = front ++ pair :: back →
    (∀ later ∈ back, stored later.1 ≠ stored pair.1) → after (stored pair.1) = some pair.2
  kept : ∀ key, (∀ pair ∈ pairs, stored pair.1 ≠ key) → after key = before key

/-- Each pair, unless a later one has its key, is there already. -/
def Standing (stored : String → String) (pairs : List (String × String))
    (values : String → Option String) : Prop :=
  ∀ front pair back, pairs = front ++ pair :: back →
    (∀ later ∈ back, stored later.1 ≠ stored pair.1) → values (stored pair.1) = some pair.2

theorem exists_last (bound : ∃ pair ∈ pairs, stored pair.1 = key) :
    ∃ front pair back, pairs = front ++ pair :: back ∧ stored pair.1 = key ∧
      ∀ later ∈ back, stored later.1 ≠ key := by
  induction pairs with
  | nil => simp at bound
  | cons first rest ih =>
    by_cases later : ∃ pair ∈ rest, stored pair.1 = key
    · obtain ⟨front, pair, back, rfl, here, last⟩ := ih later
      exact ⟨first :: front, pair, back, rfl, here, last⟩
    · push Not at later
      obtain ⟨pair, member, here⟩ := bound
      rcases List.mem_cons.mp member with rfl | inside
      · exact ⟨[], pair, rest, rfl, here, later⟩
      · exact absurd here (later pair inside)

namespace BoundInOrder

variable (bound : BoundInOrder stored pairs before after)
include bound

theorem same_iff : (∀ key, after key = before key) ↔ Standing stored pairs before := by
  constructor
  · intro same front pair back split last
    rw [← same]
    exact bound.last front pair back split last
  · intro standing key
    by_cases touched : ∃ pair ∈ pairs, stored pair.1 = key
    · obtain ⟨front, pair, back, split, rfl, last⟩ := exists_last touched
      rw [bound.last front pair back split last, standing front pair back split last]
    · push Not at touched
      exact bound.kept key touched

theorem stays (distinct : (pairs.map fun pair => stored pair.1).Nodup) (member : pair ∈ pairs) :
    after (stored pair.1) = some pair.2 := by
  obtain ⟨front, back, split⟩ := List.append_of_mem member
  refine bound.last front pair back split fun later inside same => ?_
  rw [split, List.map_append, List.map_cons, List.nodup_append, List.nodup_cons] at distinct
  obtain ⟨-, ⟨fresh, -⟩, -⟩ := distinct
  apply fresh
  rw [← same]
  exact List.mem_map_of_mem inside

end BoundInOrder

namespace Store

/-- Why a store refuses to bind a pair, if it does. -/
def refusal? : Store → String × String → Option ConfigFault
  | .memory _, pair => if Text.trim pair.1 = "" then some (.malformed "empty key") else none
  | .file _, pair =>
    (FileStore.refusal? (Text.trimChars pair.1.toList) pair.2.toList).map .malformed

/-- The store with pairs bound in order. -/
def bindAll (store : Store) (pairs : List (String × String)) : Store :=
  pairs.foldl (fun store pair => store.changed (.set pair.1 pair.2)) store

/-- Why the first pair that is refused is refused. -/
def fault? (store : Store) (pairs : List (String × String)) : Option ConfigFault :=
  pairs.findSome? store.refusal?

/-- The pairs before the first that is refused. -/
def accepted (store : Store) (pairs : List (String × String)) : List (String × String) :=
  pairs.takeWhile fun pair => (store.refusal? pair).isNone

theorem stored_changed (store : Store) (edit : Edit) : (store.changed edit).stored = store.stored := by
  cases store <;> rfl

theorem fault?_changed (store : Store) (edit : Edit) : (store.changed edit).fault? = store.fault? := by
  cases store <;> rfl

theorem accepted_changed (store : Store) (edit : Edit) :
    (store.changed edit).accepted = store.accepted := by
  cases store <;> rfl

theorem bindAll_cons (store : Store) (pair : String × String) (pairs : List (String × String)) :
    store.bindAll (pair :: pairs) = (store.changed (.set pair.1 pair.2)).bindAll pairs := rfl

theorem bindAll_append (store : Store) (pairs more : List (String × String)) :
    store.bindAll (pairs ++ more) = (store.bindAll pairs).bindAll more :=
  List.foldl_append

theorem bindAll_keeps {α : Type} (f : Store → α) (keeps : ∀ store edit, f (store.changed edit) = f store)
    (store : Store) (pairs : List (String × String)) : f (store.bindAll pairs) = f store := by
  induction pairs generalizing store with
  | nil => rfl
  | cons pair rest ih => rw [bindAll_cons, ih, keeps]

theorem stored_bindAll (store : Store) (pairs : List (String × String)) :
    (store.bindAll pairs).stored = store.stored :=
  bindAll_keeps stored stored_changed store pairs

theorem fault?_bindAll (store : Store) (pairs : List (String × String)) :
    (store.bindAll pairs).fault? = store.fault? :=
  bindAll_keeps fault? fault?_changed store pairs

theorem get?_bindAll_other (apart : ∀ pair ∈ pairs, store.stored pair.1 ≠ key) :
    (store.bindAll pairs).get? key = store.get? key := by
  induction pairs generalizing store with
  | nil => rfl
  | cons pair rest ih =>
    obtain ⟨first, apart⟩ := List.forall_mem_cons.mp apart
    rw [bindAll_cons, ih]
    · exact get?_changed_other (show store.target (.set pair.1 pair.2) ≠ key from first)
    · rw [stored_changed]
      exact apart

theorem boundInOrder (store : Store) (pairs : List (String × String)) :
    BoundInOrder store.stored pairs store.get? (store.bindAll pairs).get? where
  last front pair back split last := by
    have here := (store.bindAll front).get?_changed_target (.set pair.1 pair.2)
    rw [split, bindAll_append, bindAll_cons, ← stored_bindAll store front]
    rw [← stored_bindAll store front] at last
    rw [get?_bindAll_other]
    · exact here
    · rw [stored_changed]
      exact last
  kept _ apart := get?_bindAll_other apart

theorem changed_present (present : store.get? (store.stored key) = some value) :
    store.changed (.set key value) = store := by
  cases store with
  | memory pairs => exact congrArg Store.memory (KeyMap.insert_present present)
  | file store =>
    have same : store.pairs.insert (Text.trim key) value = store.pairs := KeyMap.insert_present present
    simp only [changed, FileStore.changed, Edit.effect, same]

theorem bindAll_present (present : ∀ pair ∈ pairs, store.get? (store.stored pair.1) = some pair.2) :
    store.bindAll pairs = store := by
  induction pairs with
  | nil => rfl
  | cons pair rest ih =>
    obtain ⟨first, present⟩ := List.forall_mem_cons.mp present
    rw [bindAll_cons, changed_present first]
    exact ih present

/-! ## What is accepted -/

theorem fault?_eq_none : store.fault? pairs = none ↔ ∀ pair ∈ pairs, store.refusal? pair = none :=
  List.findSome?_eq_none_iff

theorem accepted_of_fault?_none (fine : store.fault? pairs = none) : store.accepted pairs = pairs := by
  refine List.takeWhile_eq_self_iff.mpr fun pair member => ?_
  rw [fault?_eq_none.mp fine pair member]
  rfl

theorem fault?_cons_refused (refused : store.refusal? pair = some fault)
    (pairs : List (String × String)) :
    store.fault? (pair :: pairs) = some fault ∧ store.accepted (pair :: pairs) = [] := by
  simp [fault?, accepted, refused]

theorem fault?_cons_accepted (fine : store.refusal? pair = none) (pairs : List (String × String)) :
    store.fault? (pair :: pairs) = store.fault? pairs ∧
      store.accepted (pair :: pairs) = pair :: store.accepted pairs := by
  simp [fault?, accepted, fine]

/-- The first pair that is refused comes right after those that are accepted. -/
theorem exists_refused (stopped : store.fault? pairs = some fault) :
    ∃ refused later, pairs = store.accepted pairs ++ refused :: later ∧
      (∀ pair ∈ store.accepted pairs, store.refusal? pair = none) ∧
      store.refusal? refused = some fault := by
  induction pairs with
  | nil => simp [fault?] at stopped
  | cons pair rest ih =>
    cases verdict : store.refusal? pair with
    | some reason =>
      obtain ⟨first, none⟩ := fault?_cons_refused verdict rest
      rw [first] at stopped
      rw [none]
      exact ⟨pair, rest, rfl, by simp, verdict.trans stopped⟩
    | none =>
      obtain ⟨first, others⟩ := fault?_cons_accepted verdict rest
      rw [first] at stopped
      obtain ⟨refused, later, split, fine, reason⟩ := ih stopped
      rw [others]
      refine ⟨refused, later, ?_, List.forall_mem_cons.mpr ⟨verdict, fine⟩, reason⟩
      rw [List.cons_append, ← split]

end Store

/-! ## Stores that can be saved -/

/-- Whether a store can be saved does not depend on its pairs. -/
theorem FileStore.save_any {store : FileStore} (saved : store.save files = (left, .ok ()))
    (pairs : KeyMap String) : ∃ other, { store with pairs }.save files = (other, .ok ()) := by
  have room : { store with pairs }.makeRoom files = store.makeRoom files := rfl
  unfold save at saved ⊢
  rw [room]
  rcases made : store.makeRoom files with ⟨ready, fault | ⟨⟩⟩
  · simp [made] at saved
  rw [made] at saved
  simp only at saved ⊢
  split at saved
  · rename_i written
    obtain ⟨other, written⟩ := FileTree.write_any written (.text (writePairs pairs))
    exact ⟨other, by simp only [written]⟩
  · simp at saved

namespace Store

/-- The store can be saved. -/
def Saves : Store → FileTree → Prop
  | .memory _, _ => True
  | .file store, files => ∃ left, store.save files = (left, .ok ())

theorem set_refused (refused : store.refusal? pair = some fault) (files : FileTree) :
    store.set files pair.1 pair.2 = (store, files, .error fault) := by
  obtain ⟨key, value⟩ := pair
  cases store with
  | memory pairs =>
    obtain ⟨blank, rfl⟩ : Text.trim key = "" ∧ ConfigFault.malformed "empty key" = fault := by
      simpa [refusal?] using refused
    simp only [set, setPair, if_pos blank]
  | file store =>
    obtain ⟨reason, verdict, rfl⟩ := Option.map_eq_some_iff.mp refused
    simp only at verdict
    simp only [set, FileStore.set, verdict]

theorem set_file_accepted {store : FileStore} (fine : (Store.file store).refusal? pair = none)
    (files : FileTree) : (Store.file store).set files pair.1 pair.2 =
      (.file (store.changed (.set pair.1 pair.2)),
        (store.changed (.set pair.1 pair.2)).save files) := by
  have accepted := Option.map_eq_none_iff.mp fine
  simp only [set, FileStore.set, accepted]
  rfl

/-- A store that can be saved accepts what it does not refuse, and can be saved again. -/
theorem set_accepted (saves : store.Saves files) (fine : store.refusal? pair = none) :
    ∃ left, store.set files pair.1 pair.2 = (store.changed (.set pair.1 pair.2), left, .ok ()) ∧
      (store.changed (.set pair.1 pair.2)).Saves left := by
  cases store with
  | memory pairs =>
    have named : Text.trim pair.1 ≠ "" := fun blank => by simp [refusal?, blank] at fine
    refine ⟨files, ?_, trivial⟩
    simp only [set, setPair, if_neg named, changed]
  | file store =>
    obtain ⟨_, saved⟩ := saves
    obtain ⟨left, saved⟩ := FileStore.save_any saved (store.changed (.set pair.1 pair.2)).pairs
    refine ⟨left, ?_, ?_⟩
    · rw [set_file_accepted fine]
      exact congrArg _ saved
    · -- the file that has just been written can be written once more
      obtain ⟨again, saved, -⟩ := FileStore.save_of_read (store.changed (.set pair.1 pair.2))
        (FileStore.read_of_save saved).2
      exact ⟨again, saved⟩

/-- A store that cannot be saved accepts nothing. -/
theorem set_unsaved (stuck : ¬store.Saves files) (pair : String × String) :
    ∃ fault, (store.set files pair.1 pair.2).2.2 = .error fault := by
  cases verdict : store.refusal? pair with
  | some fault => exact ⟨fault, by rw [set_refused verdict]⟩
  | none =>
    cases store with
    | memory pairs => exact absurd trivial stuck
    | file store =>
      rw [set_file_accepted verdict]
      rcases saved : (store.changed (.set pair.1 pair.2)).save files with ⟨left, fault | ⟨⟩⟩
      · exact ⟨fault, rfl⟩
      · exact absurd (FileStore.save_any saved store.pairs) stuck

end Store

end CommandVerbs.Config
