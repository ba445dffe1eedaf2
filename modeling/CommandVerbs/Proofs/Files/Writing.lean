import CommandVerbs.Files.Tree

/-! A file that has been written is found and read back under the same path. -/
namespace CommandVerbs.FileTree

variable {t u v : FileTree} {place other : Location} {node : Node} {path : String}

/-- The trees are the same but for their nodes. -/
def SameFrame (t u : FileTree) : Prop :=
  u.workingDirectory = t.workingDirectory ∧ u.fixedModes = t.fixedModes

theorem SameFrame.refl (t : FileTree) : SameFrame t t := ⟨rfl, rfl⟩

theorem SameFrame.trans (first : SameFrame t u) (second : SameFrame u v) : SameFrame t v :=
  ⟨second.1.trans first.1, second.2.trans first.2⟩

theorem put_sameFrame (t : FileTree) (place : Location) (node : Node) :
    SameFrame t (t.put place node) := by
  unfold put
  split <;> exact ⟨rfl, rfl⟩

theorem put_workingDirectory (t : FileTree) (place : Location) (node : Node) :
    (t.put place node).workingDirectory = t.workingDirectory :=
  (put_sameFrame t place node).1

theorem find?_put_same (t : FileTree) (place : Location) (node : Node) :
    (t.put place node).nodes.find? (·.1 == place) = some (place, node) := by
  unfold put
  split
  · rename_i known
    have keys : ((fun entry : Location × Node => entry.1 == place) ∘
        fun entry => if entry.1 == place then (place, node) else entry) = (·.1 == place) := by
      funext entry
      by_cases here : entry.1 = place <;> simp [here]
    rw [List.find?_map, keys]
    cases found : t.nodes.find? (·.1 == place) with
    | none =>
      obtain ⟨entry, member, here⟩ := List.any_eq_true.mp known
      exact absurd here (List.find?_eq_none.mp found entry member)
    | some entry =>
      have here : entry.1 = place := by simpa using List.find?_some found
      simp [here]
  · rename_i new
    have absent : t.nodes.find? (·.1 == place) = none :=
      List.find?_eq_none.mpr fun entry member here => new (List.any_eq_true.mpr ⟨entry, member, here⟩)
    simp [List.find?_append, absent]

theorem find?_put_other (t : FileTree) (node : Node) (different : other ≠ place) :
    (t.put place node).nodes.find? (·.1 == other) = t.nodes.find? (·.1 == other) := by
  unfold put
  split
  · have keys : ((fun entry : Location × Node => entry.1 == other) ∘
        fun entry => if entry.1 == place then (place, node) else entry) = (·.1 == other) := by
      funext entry
      by_cases here : entry.1 = place <;> simp [here]
    rw [List.find?_map, keys]
    cases found : t.nodes.find? (·.1 == other) with
    | none => rfl
    | some entry =>
      have there : entry.1 = other := by simpa using List.find?_some found
      simp [there, different]
  · simp [List.find?_append, Ne.symm different]

theorem node?_put_same (node : Node) (apart : ¬place.isPrefixOf t.workingDirectory) :
    (t.put place node).node? place = some node := by
  rw [node?, put_workingDirectory, if_neg apart, find?_put_same, Option.map_some]

theorem node?_put_other (t : FileTree) (node : Node) (different : other ≠ place) :
    (t.put place node).node? other = t.node? other := by
  rw [node?, put_workingDirectory, find?_put_other t node different, node?]

/-- The place to which a name leads from a directory. -/
def step (start : Location) (name : String) : Except FileFault Location :=
  if name = "." then .ok start
  else if name = ".." then .ok start.dropLast
  else if nameLimit < name.utf8ByteSize then .error .longName
  else .ok (start ++ [name])

/-- A way leads from a directory to where the name leads, and on from there. -/
theorem follow_cons (there : t.node? place = some .directory) (name : String) (rest : List String) :
    t.follow place (name :: rest) = step place name >>= (t.follow · rest) := by
  rw [follow, there, step]
  by_cases dot : name = "."
  · simp only [if_pos dot]
    rfl
  by_cases up : name = ".."
  · simp only [if_neg dot, if_pos up]
    rfl
  by_cases long : nameLimit < name.utf8ByteSize
  · simp only [if_neg dot, if_neg up, if_pos long]
    rfl
  · simp only [if_neg dot, if_neg up, if_neg long]
    rfl

theorem follow_cons_iff {start : Location} {name : String} {rest : List String} :
    t.follow start (name :: rest) = .ok place ↔ t.node? start = some .directory ∧
      ∃ next, step start name = .ok next ∧ t.follow next rest = .ok place := by
  constructor
  · intro found
    have there : t.node? start = some .directory := by
      unfold follow at found
      split at found
      · contradiction
      · contradiction
      · assumption
    rw [follow_cons there] at found
    cases next : step start name with
    | error fault =>
      rw [next] at found
      contradiction
    | ok place =>
      rw [next] at found
      exact ⟨there, place, rfl, found⟩
  · rintro ⟨there, next, stepped, found⟩
    rw [follow_cons there, stepped]
    exact found

/-- A way leads through directories only, so it is there as long as these are. -/
theorem follow_of_directories
    (directories : ∀ q, t.node? q = some .directory → u.node? q = some .directory)
    {start : Location} {names : List String} (found : t.follow start names = .ok place) :
    u.follow start names = .ok place := by
  induction names generalizing start with
  | nil => exact found
  | cons name rest ih =>
    obtain ⟨there, next, stepped, found⟩ := follow_cons_iff.mp found
    exact follow_cons_iff.mpr ⟨directories start there, next, stepped, ih found⟩

theorem locate_eq_ok : t.locate path = .ok place ↔
    (¬path.isEmpty ∧ ¬path.toList.contains '\x00' ∧ ¬pathLimit ≤ path.utf8ByteSize) ∧
      t.follow (if Path.isAbsolute path then [] else t.workingDirectory) (Path.names path) =
        .ok place := by
  unfold locate
  by_cases empty : path.isEmpty
  · simp [empty]
  by_cases zero : path.toList.contains '\x00'
  · simp only [empty, zero, if_false, if_true, not_true, false_and, and_false, reduceCtorEq]
  by_cases long : pathLimit ≤ path.utf8ByteSize
  · simp only [empty, zero, long, if_false, if_true, not_true, false_and, and_false, reduceCtorEq]
  · rw [if_neg empty, if_neg zero, if_neg long]
    exact (and_iff_right ⟨empty, zero, long⟩).symm

theorem locate_of_directories (same : u.workingDirectory = t.workingDirectory)
    (directories : ∀ q, t.node? q = some .directory → u.node? q = some .directory)
    (found : t.locate path = .ok place) : u.locate path = .ok place := by
  obtain ⟨sound, found⟩ := locate_eq_ok.mp found
  exact locate_eq_ok.mpr ⟨sound, same ▸ follow_of_directories directories found⟩

theorem locate_put (found : t.locate path = .ok place) (file : t.node? place ≠ some .directory)
    (node : Node) : (t.put place node).locate path = .ok place := by
  refine locate_of_directories (put_workingDirectory t place node) (fun q directory => ?_) found
  have elsewhere : q ≠ place := fun here => file (here ▸ directory)
  rw [node?_put_other t node elsewhere, directory]

/-- What is no directory does not lie on the way to the working directory. -/
theorem not_prefix_of_file (file : t.node? place ≠ some .directory) :
    ¬place.isPrefixOf t.workingDirectory :=
  fun within => file (if_pos within)

/-- The mode of a file that has been written at a place: its own, or that of a new file. -/
def writtenMode (t : FileTree) (place : Location) : Nat :=
  match t.node? place with
  | some (.file _ mode) => mode
  | _ => plainMode

theorem write_eq_ok {content : Content} (written : t.write path content = .ok u) :
    ∃ place, t.locate path = .ok place ∧ t.node? place ≠ some .directory ∧
      Path.endsWithSlash path = false ∧
      u = t.put place (.file content (t.writtenMode place)) := by
  unfold write at written
  cases located : t.locate path with
  | error fault => simp [located] at written
  | ok place =>
  cases slash : Path.endsWithSlash path with
  | true => simp [located, slash] at written
  | false =>
  simp only [located, slash] at written
  cases present : t.node? place with
  | none =>
    simp only [present] at written
    cases above : t.node? place.dropLast with
    | none => simp [above] at written
    | some node =>
      cases node with
      | file => simp [above] at written
      | directory =>
        simp only [above] at written
        refine ⟨place, rfl, by simp [present], rfl, ?_⟩
        rw [writtenMode, present]
        exact (Except.ok.inj written).symm
  | some node =>
    cases node with
    | directory => simp [present] at written
    | file old mode =>
      simp only [present] at written
      refine ⟨place, rfl, by simp [present], rfl, ?_⟩
      rw [writtenMode, present]
      exact (Except.ok.inj written).symm

/-- A text that has been written is read back. -/
theorem read_write {text : String} (written : t.write path (.text text) = .ok u) :
    u.contains path ∧ u.read path = .ok text := by
  obtain ⟨place, located, file, slash, rfl⟩ := write_eq_ok written
  have found : (t.put place (.file (.text text) (t.writtenMode place))).lookup path =
      .ok (.file (.text text) (t.writtenMode place)) := by
    simp only [lookup, locate_put located file, node?_put_same _ (not_prefix_of_file file), slash]
    rfl
  simp only [contains, read, found, and_self]

/-- Whether a file can be written does not depend on what is written. -/
theorem write_any {content : Content} (written : t.write path content = .ok u) (other : Content) :
    ∃ v, t.write path other = .ok v := by
  unfold write at written ⊢
  split at written
  · contradiction
  split at written
  · contradiction
  rename_i slash
  simp only [if_neg slash]
  split at written
  · contradiction
  · exact ⟨_, rfl⟩
  · split at written
    · exact ⟨_, rfl⟩
    · contradiction
    · contradiction

end CommandVerbs.FileTree
