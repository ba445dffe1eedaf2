import CommandVerbs.Proofs.Files.Ways

/-! A directory that has been made with its parents is there, where its path leads to. -/
namespace CommandVerbs

namespace Path

variable {path : String}

/-- A path without a name above it consists of what says nothing. -/
theorem idle_of_parent?_none (none : parent? path = none) :
    ∀ piece ∈ Text.splitAt '/' path, Idle piece := by
  obtain ⟨idle, whole, all⟩ := dropIdle_append (Text.splitAt '/' path).reverse
  have rest : ∀ piece ∈ dropIdle (Text.splitAt '/' path).reverse, Idle piece := by
    unfold parent? at none
    split at none
    · rename_i shape
      simp [shape]
    · rename_i shape
      simp [shape, Idle]
    · contradiction
    · split at none <;> contradiction
  intro piece member
  rw [← List.mem_reverse, whole] at member
  rcases List.mem_append.mp member with early | late
  · exact all piece early
  · exact rest piece late

end Path

namespace FileTree

variable {t u : FileTree} {path : String} {paths missing rest : List String}

theorem isDirectory_of_makeDirectory (made : t.makeDirectory path = .ok u) : u.isDirectory path := by
  unfold makeDirectory at made
  split at made
  · contradiction
  rename_i place located
  split at made
  · contradiction
  rename_i empty
  have file : t.node? place ≠ some .directory := by simp [empty]
  split at made
  · obtain rfl := Except.ok.inj made
    exact isDirectory_iff.mpr ⟨place, locate_put located file _,
      node?_put_same _ (not_prefix_of_file file)⟩
  · contradiction
  · contradiction

theorem Extended.isDirectory (extended : Extended t u) (same : u.workingDirectory = t.workingDirectory)
    (there : t.isDirectory path) : u.isDirectory path := by
  obtain ⟨place, located, directory⟩ := isDirectory_iff.mp there
  exact isDirectory_iff.mpr ⟨place, extended.locate same located, extended.directory directory⟩

/-- Once a path is put off it stays listed. -/
theorem subset_of_makeLongest (longest : t.makeLongest missing paths = .ok (u, rest)) :
    missing ⊆ rest := by
  induction paths generalizing missing with
  | nil => exact (Prod.mk.inj (Except.ok.inj longest)).2 ▸ List.Subset.refl missing
  | cons path shorter ih =>
    unfold makeLongest at longest
    split at longest
    · exact (Prod.mk.inj (Except.ok.inj longest)).2 ▸ List.Subset.refl missing
    · exact List.subset_of_cons_subset (ih longest)
    · split at longest
      · exact (Prod.mk.inj (Except.ok.inj longest)).2 ▸ List.Subset.refl missing
      · contradiction

/-- The longest path is a directory, or is listed to be made. -/
theorem makeLongest_first (longest : t.makeLongest missing (path :: paths) = .ok (u, rest)) :
    u.isDirectory path ∨ path ∈ rest := by
  unfold makeLongest at longest
  split at longest
  · rename_i made
    obtain ⟨rfl, -⟩ := Prod.mk.inj (Except.ok.inj longest)
    exact .inl (isDirectory_of_makeDirectory made)
  · exact .inr (subset_of_makeLongest longest List.mem_cons_self)
  · split at longest
    · rename_i there
      obtain ⟨rfl, -⟩ := Prod.mk.inj (Except.ok.inj longest)
      exact .inl there.2
    · contradiction

/-- What is a directory stays one while others are made. -/
theorem makeEach_isDirectory (there : t.isDirectory path) (paths : List String) :
    (t.makeEach paths).1.isDirectory path :=
  makeEach_keeps (R := fun t u => t.isDirectory path → u.isDirectory path) (fun _ => id)
    (fun first second => second ∘ first)
    (fun made => (makeDirectory_extended made).isDirectory (makeDirectory_sameFrame made).1)
    t paths there

/-- Each listed path is a directory in the end. -/
theorem isDirectory_of_makeEach (made : t.makeEach paths = (u, .ok ())) (member : path ∈ paths) :
    u.isDirectory path := by
  induction paths generalizing t with
  | nil => contradiction
  | cons first later ih =>
    have begun : ∃ next : FileTree, next.isDirectory first ∧ next.makeEach later = (u, .ok ()) := by
      unfold makeEach at made
      split at made
      · rename_i next one
        exact ⟨next, isDirectory_of_makeDirectory one, made⟩
      · split at made
        · rename_i there
          exact ⟨t, there.2, made⟩
        · cases made
    obtain ⟨next, there, ended⟩ := begun
    rcases List.mem_cons.mp member with rfl | member
    · simpa [ended] using makeEach_isDirectory there later
    · exact ih ended member

theorem isDirectory_of_makeDirectories {directory : String} (named : Path.parent? path = some directory)
    (made : t.makeDirectories path = (u, .ok ())) : u.isDirectory path := by
  have candidates : Path.makeable path = path :: Path.ancestors path.length directory := by
    rw [Path.makeable, Path.ancestors, named]
  unfold makeDirectories at made
  rw [candidates] at made
  split at made
  · cases made
  rename_i ready missing longest
  rcases makeLongest_first longest with there | listed
  · simpa [made] using makeEach_isDirectory there missing
  · exact isDirectory_of_makeEach made listed

/-- A directory that has been made is where its path leads to. -/
theorem directory_of_makeDirectories (made : t.makeDirectories path = (u, .ok ())) :
    u.node? (u.destination path) = some .directory := by
  cases above : Path.parent? path with
  | none =>
    -- nothing is made then: the path stays at the root or at the working directory
    have dots : ∀ name ∈ Path.names path, name = "." :=
      Path.filter_idle (Path.idle_of_parent?_none above)
    rw [destination, resolve_dots dots]
    split
    · rfl
    · exact if_pos (by simp)
  | some directory =>
    obtain ⟨place, located, there⟩ := isDirectory_iff.mp (isDirectory_of_makeDirectories above made)
    exact eq_destination_of_locate located ▸ there

end FileTree

end CommandVerbs
