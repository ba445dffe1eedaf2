import Mathlib.Data.List.Induction
import Mathlib.Data.List.Infix
import CommandVerbs.Proofs.Files.Directories
import CommandVerbs.Proofs.Files.Resolving

/-! Ways in a tree to which directories are added. A way that is there stays, and one that comes into
being led nowhere before. A way to a file that was there before comes into being only by going up
again. -/
namespace CommandVerbs.FileTree

variable {t u : FileTree} {place start q : Location} {node : Node} {names : List String} {path : String}
  {content : Content} {mode : Nat}

theorem Extended.directory (extended : Extended t u) (there : t.node? q = some .directory) :
    u.node? q = some .directory := by
  rcases extended q with same | ⟨empty, -⟩
  · rw [same, there]
  · rw [there] at empty
    contradiction

theorem Extended.locate (extended : Extended t u) (same : u.workingDirectory = t.workingDirectory)
    (found : t.locate path = .ok place) : u.locate path = .ok place :=
  locate_of_directories same (fun _ => extended.directory) found

/-- A way is as it was, or led to nothing before. -/
theorem Extended.follow_before (extended : Extended t u) (found : u.follow start names = .ok place) :
    t.follow start names = .ok place ∨ t.follow start names = .error .missing := by
  induction names generalizing start with
  | nil => exact .inl found
  | cons name rest ih =>
    obtain ⟨there, next, stepped, found⟩ := follow_cons_iff.mp found
    rcases extended start with same | ⟨empty, -⟩
    · rw [same] at there
      rw [follow_cons there, stepped]
      exact ih found
    · right
      rw [follow, empty]

theorem locate_of_sound (found : u.locate path = .ok place) (t : FileTree) :
    t.locate path = t.follow (if Path.isAbsolute path then [] else t.workingDirectory)
      (Path.names path) := by
  obtain ⟨⟨empty, zero, long⟩, -⟩ := locate_eq_ok.mp found
  rw [FileTree.locate, if_neg empty, if_neg zero, if_neg long]

theorem Extended.locate_before (extended : Extended t u) (same : u.workingDirectory = t.workingDirectory)
    (found : u.locate path = .ok place) :
    t.locate path = .ok place ∨ t.locate path = .error .missing := by
  have way := found
  rw [locate_of_sound found u, same] at way
  rw [locate_of_sound found t]
  exact extended.follow_before way

/-! ## Going up -/

/-- Whatever is somewhere is in a directory. -/
def Grounded (t : FileTree) : Prop :=
  ∀ place node, t.node? place = some node → place ≠ [] → t.node? place.dropLast = some .directory

theorem Grounded.directory_above (grounded : t.Grounded) (present : t.node? place = some node)
    (above : q <+: place) (proper : q ≠ place) : t.node? q = some .directory := by
  induction place using List.reverseRecOn generalizing node with
  | nil => exact absurd (List.prefix_nil.mp above) proper
  | append_singleton front last ih =>
    have next : t.node? front = some .directory := by
      simpa using grounded _ _ present (by simp)
    rcases List.prefix_concat_iff.mp above with same | above
    · exact absurd same proper
    · by_cases here : q = front
      · rw [here, next]
      · exact ih next above here

theorem prefix_of_follow (level : ".." ∉ names) (found : t.follow start names = .ok place) :
    start <+: place := by
  rw [eq_resolve_of_follow found]
  exact prefix_resolve level start

/-- A way down to a file that was there before was there before as well. -/
theorem Extended.follow_level (extended : Extended t u) (grounded : t.Grounded) (level : ".." ∉ names)
    (file : t.node? place = some (.file content mode)) (found : u.follow start names = .ok place) :
    t.follow start names = .ok place := by
  induction names generalizing start with
  | nil => exact found
  | cons name rest ih =>
    have above := prefix_of_follow level found
    obtain ⟨up, level⟩ := List.ne_and_not_mem_of_not_mem_cons level
    obtain ⟨there, next, stepped, found⟩ := follow_cons_iff.mp found
    -- what a name leaves is a directory after all, and so not the file itself
    have proper : start ≠ place := by
      rintro rfl
      simp [(extended.file start).mpr file] at there
    exact follow_cons_iff.mpr ⟨grounded.directory_above file above proper, next, stepped, ih level found⟩

end CommandVerbs.FileTree
