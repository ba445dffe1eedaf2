import Mathlib.Data.List.Induction
import Mathlib.Data.List.Nodup
import CommandVerbs.KeyMap

/-! Maps by their look-ups and by their pairs. The pairs of a map are those that its keys look up,
and a map is made anew from its own list of pairs. -/
namespace CommandVerbs

variable {α : Type} {entries : List (String × α)} {key other : String} {value : α}

theorem find?_insertEntry_same (key : String) (value : α) (entries : List (String × α)) :
    (insertEntry key value entries).find? (·.1 == key) = some (key, value) := by
  induction entries with
  | nil => simp [insertEntry]
  | cons entry rest ih =>
    rw [insertEntry]
    by_cases before : key < entry.1
    · simp [before]
    by_cases same : key = entry.1
    · simp [same]
    · simp [before, same, Ne.symm same, ih]

theorem find?_insertEntry_other (value : α) (entries : List (String × α)) (different : other ≠ key) :
    (insertEntry key value entries).find? (·.1 == other) = entries.find? (·.1 == other) := by
  induction entries with
  | nil => simp [insertEntry, Ne.symm different]
  | cons entry rest ih =>
    rw [insertEntry]
    by_cases before : key < entry.1
    · simp [before, Ne.symm different]
    by_cases same : key = entry.1
    · subst same
      simp [Ne.symm different]
    · simp [before, same, List.find?_cons, ih]

/-- A key that comes after all others takes the last place. -/
theorem insertEntry_last (value : α) (last : ∀ e ∈ entries, e.1 < key) :
    insertEntry key value entries = entries ++ [(key, value)] := by
  induction entries with
  | nil => rfl
  | cons entry rest ih =>
    obtain ⟨less, last⟩ := List.forall_mem_cons.mp last
    have after : ¬key < entry.1 := String.lt_asymm less
    have different : key ≠ entry.1 := fun same => String.lt_irrefl _ (same ▸ less)
    simp [insertEntry, after, different, ih last]

/-- A pair that is there already is put where it is. -/
theorem insertEntry_present (ascending : Ascending entries) (present : (key, value) ∈ entries) :
    insertEntry key value entries = entries := by
  induction entries with
  | nil => exact absurd present List.not_mem_nil
  | cons entry rest ih =>
    obtain ⟨less, later⟩ := List.pairwise_cons.mp ascending
    rw [insertEntry]
    rcases List.mem_cons.mp present with rfl | inRest
    · rw [if_neg (String.lt_irrefl _), if_pos rfl]
    · have after := less _ inRest
      have different : key ≠ entry.1 := fun same => String.lt_irrefl _ (same ▸ after)
      rw [if_neg (String.lt_asymm after), if_neg different, ih later inRest]

namespace KeyMap

variable {m n : KeyMap α}

theorem ext_toList (same : m.toList = n.toList) : m = n := by
  cases m
  cases n
  subst same
  rfl

theorem toList_insert (m : KeyMap α) (key : String) (value : α) :
    (m.insert key value).toList = insertEntry key value m.toList := rfl

theorem get?_insert_same (m : KeyMap α) (key : String) (value : α) :
    (m.insert key value).get? key = some value := by
  rw [get?, toList_insert, find?_insertEntry_same, Option.map_some]

theorem get?_insert_other (m : KeyMap α) (value : α) (different : other ≠ key) :
    (m.insert key value).get? other = m.get? other := by
  rw [get?, toList_insert, find?_insertEntry_other value m.toList different, get?]

theorem get?_erase_same (m : KeyMap α) (key : String) : (m.erase key).get? key = none := by
  rw [get?, erase, List.find?_filter]
  simp

theorem get?_erase_other (m : KeyMap α) (different : other ≠ key) :
    (m.erase key).get? other = m.get? other := by
  have same : (fun entry : String × α => decide ((entry.1 != key) = true ∧ (entry.1 == other) = true)) =
      (·.1 == other) := by
    funext entry
    by_cases here : entry.1 = other <;> simp [here, different]
  rw [get?, erase, List.find?_filter, same, get?]

theorem keys_nodup (m : KeyMap α) : m.keys.Nodup := by
  refine List.pairwise_map.mpr (m.ascending.imp fun {a b} less same => ?_)
  exact String.lt_irrefl _ (same ▸ less)

theorem mem_toList_iff : (key, value) ∈ m.toList ↔ m.get? key = some value := by
  constructor
  · intro member
    cases found : m.toList.find? (·.1 == key) with
    | none => simpa using List.find?_eq_none.mp found _ member
    | some e =>
      have same : e.1 = key := by simpa using List.find?_some found
      have one : e = (key, value) :=
        List.inj_on_of_nodup_map m.keys_nodup (List.mem_of_find?_eq_some found) member same
      rw [get?, found, one, Option.map_some]
  · intro found
    obtain ⟨⟨name, _⟩, located, rfl⟩ := Option.map_eq_some_iff.mp found
    obtain rfl : name = key := by simpa using List.find?_some located
    exact List.mem_of_find?_eq_some located

theorem insert_present (present : m.get? key = some value) : m.insert key value = m :=
  ext_toList (insertEntry_present m.ascending (mem_toList_iff.mpr present))

theorem erase_absent (absent : m.contains key = false) : m.erase key = m := by
  apply ext_toList
  refine List.filter_eq_self.mpr fun entry member => ?_
  have found : m.get? entry.1 = some entry.2 := mem_toList_iff.mp member
  rw [bne_iff_ne]
  rintro rfl
  simp [contains, found] at absent

theorem mem_keys_iff : key ∈ m.keys ↔ m.contains key := by
  rw [contains, Option.isSome_iff_exists, keys, List.mem_map]
  constructor
  · rintro ⟨⟨_, value⟩, member, rfl⟩
    exact ⟨value, mem_toList_iff.mp member⟩
  · rintro ⟨value, found⟩
    exact ⟨(key, value), mem_toList_iff.mpr found, rfl⟩

theorem ofList_append (entries more : List (String × α)) :
    ofList (entries ++ more) = more.foldl (fun m e => m.insert e.1 e.2) (ofList entries) :=
  List.foldl_append

theorem ofList_append_single (entries : List (String × α)) (e : String × α) :
    ofList (entries ++ [e]) = (ofList entries).insert e.1 e.2 :=
  ofList_append entries [e]

/-- A list of pairs in key order is the list of the map that is made of it. -/
theorem toList_ofList (ascending : Ascending entries) : (ofList entries).toList = entries := by
  induction entries using List.reverseRecOn with
  | nil => rfl
  | append_singleton entries e ih =>
    obtain ⟨ascending, _, last⟩ := List.pairwise_append.mp ascending
    have last : ∀ f ∈ entries, f.1 < e.1 := fun f member => last f member e (by simp)
    rw [ofList_append_single, toList_insert, ih ascending, insertEntry_last e.2 last]

theorem mem_of_mem_ofList {e : String × α} (member : e ∈ (ofList entries).toList) : e ∈ entries := by
  induction entries using List.reverseRecOn with
  | nil => exact member
  | append_singleton entries f ih =>
    rw [ofList_append_single] at member
    rcases mem_insertEntry member with same | earlier
    · simp [same]
    · exact List.mem_append_left _ (ih earlier)

/-- Under each key a map has the value of the last pair with that key. -/
theorem get?_ofList_last (entries : List (String × α)) (key : String) :
    (ofList entries).get? key =
      entries.reverse.findSome? fun e => if e.1 = key then some e.2 else none := by
  induction entries using List.reverseRecOn with
  | nil => rfl
  | append_singleton entries e ih =>
    rw [ofList_append_single, List.reverse_append, List.reverse_singleton, List.singleton_append,
      List.findSome?_cons]
    by_cases here : e.1 = key
    · simp [← here, get?_insert_same]
    · simp [here, get?_insert_other _ _ (Ne.symm here), ih]

/-- Of a list with distinct keys, a map looks up every pair. -/
theorem get?_ofList (distinct : (entries.map (·.1)).Nodup) :
    (ofList entries).get? key = some value ↔ (key, value) ∈ entries := by
  induction entries using List.reverseRecOn with
  | nil => simp [ofList, empty, get?]
  | append_singleton entries e ih =>
    rw [List.map_append, List.nodup_append] at distinct
    obtain ⟨distinct, -, apart⟩ := distinct
    rw [ofList_append_single, List.mem_append, List.mem_singleton]
    by_cases here : key = e.1
    · subst here
      have absent : (e.1, value) ∉ entries := fun member =>
        apart e.1 (List.mem_map.mpr ⟨_, member, rfl⟩) e.1 (by simp) rfl
      rw [get?_insert_same, Option.some_inj, or_iff_right absent, Prod.ext_iff]
      simp [eq_comm]
    · have other : (key, value) ≠ e := fun same => here (congrArg Prod.fst same)
      rw [get?_insert_other _ _ here, ih distinct, or_iff_left other]

end KeyMap

end CommandVerbs
