/-!
# Maps from texts

A finite map whose keys are texts, kept in ascending key order. The order is part of the type, so a
map has one form and listing it needs no sorting.
-/

namespace CommandVerbs

/-- The keys of a list of pairs ascend strictly. -/
def Ascending {α : Type} (entries : List (String × α)) : Prop :=
  entries.Pairwise fun a b => a.1 < b.1

/-- Puts a pair at its place in an ascending list, in place of a pair with the same key. -/
def insertEntry {α : Type} (key : String) (value : α) : List (String × α) → List (String × α)
  | [] => [(key, value)]
  | entry :: rest =>
    if key < entry.1 then (key, value) :: entry :: rest
    else if key = entry.1 then (key, value) :: rest
    else entry :: insertEntry key value rest

theorem mem_insertEntry {α : Type} {key : String} {value : α} {entries : List (String × α)}
    {e : String × α} (h : e ∈ insertEntry key value entries) : e = (key, value) ∨ e ∈ entries := by
  induction entries with
  | nil => simp_all [insertEntry]
  | cons entry rest ih =>
    unfold insertEntry at h
    split at h
    · simpa using h
    · split at h <;> simp only [List.mem_cons] at h ⊢ <;> grind

theorem ascending_insertEntry {α : Type} (key : String) (value : α) {entries : List (String × α)}
    (h : Ascending entries) : Ascending (insertEntry key value entries) := by
  induction entries with
  | nil => simp [insertEntry, Ascending]
  | cons entry rest ih =>
    have hrest : Ascending rest := h.tail
    have hhead : ∀ e ∈ rest, entry.1 < e.1 := fun e he => List.rel_of_pairwise_cons h he
    unfold insertEntry
    split
    · next hlt =>
      refine List.pairwise_cons.2 ⟨fun e he => ?_, h⟩
      rcases List.mem_cons.1 he with rfl | he
      · exact hlt
      · exact String.lt_trans hlt (hhead e he)
    · split
      · next heq => exact List.pairwise_cons.2 ⟨fun e he => heq ▸ hhead e he, hrest⟩
      · next hlt hne =>
        refine List.pairwise_cons.2 ⟨fun e he => ?_, ih hrest⟩
        rcases mem_insertEntry he with rfl | he
        · exact Decidable.not_not.1 fun h =>
            hne (String.le_antisymm (String.not_lt.1 h) (String.not_lt.1 hlt))
        · exact hhead e he

/-- A map from texts, as its pairs in ascending key order. -/
structure KeyMap (α : Type) where
  toList : List (String × α)
  ascending : Ascending toList
  deriving DecidableEq

namespace KeyMap

variable {α : Type}

def empty : KeyMap α := ⟨[], List.Pairwise.nil⟩

instance : Inhabited (KeyMap α) := ⟨empty⟩

/-- The map with the key bound to the value. -/
def insert (m : KeyMap α) (key : String) (value : α) : KeyMap α :=
  ⟨insertEntry key value m.toList, ascending_insertEntry key value m.ascending⟩

/-- The map without the key. -/
def erase (m : KeyMap α) (key : String) : KeyMap α :=
  ⟨m.toList.filter (·.1 != key), m.ascending.filter _⟩

/-- The pairs that satisfy a test. -/
def filter (m : KeyMap α) (keep : String → Bool) : KeyMap α :=
  ⟨m.toList.filter (keep ·.1), m.ascending.filter _⟩

/-- The value of a key. -/
def get? (m : KeyMap α) (key : String) : Option α :=
  (m.toList.find? (·.1 == key)).map (·.2)

def contains (m : KeyMap α) (key : String) : Bool :=
  (m.get? key).isSome

def keys (m : KeyMap α) : List String :=
  m.toList.map (·.1)

def size (m : KeyMap α) : Nat :=
  m.toList.length

def isEmpty (m : KeyMap α) : Bool :=
  m.toList.isEmpty

/-- The map of a list of pairs; a later pair takes the place of an earlier one with its key. -/
def ofList (pairs : List (String × α)) : KeyMap α :=
  pairs.foldl (fun m (key, value) => m.insert key value) empty

end KeyMap

end CommandVerbs
