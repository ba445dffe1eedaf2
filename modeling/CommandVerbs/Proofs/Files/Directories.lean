import CommandVerbs.Proofs.Files.Writing

/-! Making directories puts directories where there was nothing, and does nothing else, also where it
is refused half-way. So every file stays as it is. -/
namespace CommandVerbs.FileTree

variable {t u v : FileTree} {place : Location} {path : String} {paths missing : List String}

/-- Nothing but further directories tells `u` from `t`. -/
def Extended (t u : FileTree) : Prop :=
  ∀ place, u.node? place = t.node? place ∨
    t.node? place = none ∧ u.node? place = some .directory

theorem Extended.refl (t : FileTree) : Extended t t := fun _ => .inl rfl

theorem Extended.trans (first : Extended t u) (second : Extended u v) : Extended t v := by
  intro place
  rcases second place with same | ⟨empty, directory⟩
  · rw [same]
    exact first place
  · right
    rcases first place with same | ⟨_, present⟩
    · exact ⟨same ▸ empty, directory⟩
    · rw [empty] at present
      contradiction

theorem Extended.file {content : Content} {mode : Nat} (extended : Extended t u)
    (place : Location) :
    u.node? place = some (.file content mode) ↔ t.node? place = some (.file content mode) := by
  rcases extended place with same | ⟨empty, directory⟩
  · rw [same]
  · simp [empty, directory]

theorem put_extended (empty : t.node? place = none) : Extended t (t.put place .directory) := by
  intro other
  by_cases here : other = place
  · subst here
    refine .inr ⟨empty, node?_put_same _ (not_prefix_of_file ?_)⟩
    simp [empty]
  · exact .inl (node?_put_other t _ here)

theorem makeDirectory_extended (made : t.makeDirectory path = .ok u) : Extended t u := by
  unfold makeDirectory at made
  split at made
  · contradiction
  split at made
  · contradiction
  rename_i empty
  split at made
  · obtain rfl := Except.ok.inj made
    exact put_extended empty
  · contradiction
  · contradiction

section

variable {R : FileTree → FileTree → Prop}

/-- What holds of a tree and itself, goes on from tree to tree and holds where one directory is made,
holds where several are made, also if this is refused half-way. -/
theorem makeLongest_keeps (refl : ∀ t, R t t) (made : ∀ {t u path}, t.makeDirectory path = .ok u → R t u)
    {rest : List String} (longest : t.makeLongest missing paths = .ok (u, rest)) : R t u := by
  induction paths generalizing missing with
  | nil =>
    obtain ⟨rfl, -⟩ := Prod.mk.inj (Except.ok.inj longest)
    exact refl _
  | cons path shorter ih =>
    unfold makeLongest at longest
    split at longest
    · rename_i next first
      obtain ⟨rfl, -⟩ := Prod.mk.inj (Except.ok.inj longest)
      exact made first
    · exact ih longest
    · split at longest
      · obtain ⟨rfl, -⟩ := Prod.mk.inj (Except.ok.inj longest)
        exact refl _
      · contradiction

theorem makeEach_keeps (refl : ∀ t, R t t) (trans : ∀ {t u v}, R t u → R u v → R t v)
    (made : ∀ {t u path}, t.makeDirectory path = .ok u → R t u) (t : FileTree) (paths : List String) :
    R t (t.makeEach paths).1 := by
  induction paths generalizing t with
  | nil => exact refl t
  | cons path rest ih =>
    unfold makeEach
    split
    · rename_i next first
      exact trans (made first) (ih next)
    · split
      · exact ih t
      · exact refl t

theorem makeDirectories_keeps (refl : ∀ t, R t t) (trans : ∀ {t u v}, R t u → R u v → R t v)
    (made : ∀ {t u path}, t.makeDirectory path = .ok u → R t u) (t : FileTree) (path : String) :
    R t (t.makeDirectories path).1 := by
  unfold makeDirectories
  split
  · exact refl t
  · rename_i ready missing longest
    exact trans (makeLongest_keeps refl made longest) (makeEach_keeps refl trans made ready missing)

end

theorem makeDirectories_extended (t : FileTree) (path : String) :
    Extended t (t.makeDirectories path).1 :=
  makeDirectories_keeps .refl .trans makeDirectory_extended t path

theorem extended_of_making {result : Except FileFault Unit}
    (making : t.makeDirectories path = (u, result)) : Extended t u := by
  have extended := makeDirectories_extended t path
  rwa [making] at extended

theorem makeDirectory_sameFrame (made : t.makeDirectory path = .ok u) : SameFrame t u := by
  unfold makeDirectory at made
  split at made
  · contradiction
  split at made
  · contradiction
  split at made
  · obtain rfl := Except.ok.inj made
    exact put_sameFrame _ _ _
  · contradiction
  · contradiction

theorem sameFrame_of_making {result : Except FileFault Unit}
    (making : t.makeDirectories path = (u, result)) : SameFrame t u := by
  have same := makeDirectories_keeps .refl .trans makeDirectory_sameFrame t path
  rwa [making] at same

theorem workingDirectory_of_making {result : Except FileFault Unit}
    (making : t.makeDirectories path = (u, result)) : u.workingDirectory = t.workingDirectory :=
  (sameFrame_of_making making).1

end CommandVerbs.FileTree
