import CommandVerbs.Proofs.Files.Rewriting

/-! Where a path leads to once its dots are resolved, whether or not anything is there. Along any names
one goes up by some number of names and then down along others, whatever the start. So whether a path
stays below the directory from which it starts is seen from its names alone, unless it comes down again
through what it has left. -/
namespace CommandVerbs

namespace Path

variable {base name : String}

@[simp] theorem names_empty : names "" = [] := by decide +kernel

@[simp] theorem isAbsolute_empty : isAbsolute "" = false := by decide +kernel

theorem names_append_slash (front back : String) :
    names (front ++ "/" ++ back) = names front ++ names back := by
  have pieces : Text.splitAt '/' (front ++ "/" ++ back) =
      Text.splitAt '/' front ++ Text.splitAt '/' back := by
    simp only [Text.splitAt, String.toList_append, List.append_assoc, ← List.map_append,
      ← Text.segments_append_cons]
    rfl
  rw [names, pieces, List.filter_append]
  rfl

theorem eq_append_slash (slash : endsWithSlash base = true) : ∃ front, base = front ++ "/" := by
  have last : base.toList.getLast? = some '/' := by simpa [endsWithSlash] using slash
  obtain ⟨front, whole⟩ := List.getLast?_eq_some_iff.mp last
  refine ⟨String.ofList front, String.toList_injective ?_⟩
  rw [whole, String.toList_append, String.toList_ofList]
  rfl

/-- The names of a joined path are those of the directory and then those of the name. -/
theorem names_join (relative : isAbsolute name = false) (base : String) :
    names (join base name) = names base ++ names name := by
  rw [join, relative, if_neg Bool.false_ne_true]
  by_cases empty : base = ""
  · simp [empty]
  cases slash : endsWithSlash base with
  | false =>
    have cut : (base.isEmpty || false) = false := by simp [empty]
    rw [cut, if_neg Bool.false_ne_true, names_append_slash]
  | true =>
    obtain ⟨front, rfl⟩ := eq_append_slash slash
    have directory : names (front ++ "/") = names front := by
      simpa using names_append_slash front ""
    rw [Bool.or_true, if_pos rfl, names_append_slash, directory]

theorem isAbsolute_append (some : base ≠ "") (more : String) :
    isAbsolute (base ++ more) = isAbsolute base := by
  rw [isAbsolute, isAbsolute, String.toList_append, List.head?_append_of_ne_nil _ (by simpa using some)]

theorem isAbsolute_join (relative : isAbsolute name = false) (base : String) :
    isAbsolute (join base name) = isAbsolute base := by
  rw [join, relative, if_neg Bool.false_ne_true]
  by_cases empty : base = ""
  · subst empty
    simpa using relative
  split
  · exact isAbsolute_append empty name
  · rw [String.append_assoc, isAbsolute_append empty]

theorem join_absolute (absolute : isAbsolute name = true) (base : String) : join base name = name := by
  rw [join, if_pos absolute]

end Path

namespace FileTree

variable {t : FileTree} {start place next : Location} {names : List String} {path name : String}

/-- The place to which a name leads. -/
def enter (place : Location) (name : String) : Location :=
  if name = "." then place
  else if name = ".." then place.dropLast
  else place ++ [name]

/-- The place to which names lead. -/
def resolve (start : Location) (names : List String) : Location :=
  names.foldl enter start

/-- The place to which a path leads, whether or not anything is on the way. -/
def destination (t : FileTree) (path : String) : Location :=
  resolve (if Path.isAbsolute path then [] else t.workingDirectory) (Path.names path)

theorem eq_enter_of_step (stepped : step start name = .ok next) : next = enter start name := by
  unfold step at stepped
  unfold enter
  split_ifs at stepped ⊢ <;> exact (Except.ok.inj stepped).symm

theorem eq_resolve_of_follow (found : t.follow start names = .ok place) :
    place = resolve start names := by
  induction names generalizing start with
  | nil => exact (Except.ok.inj found).symm
  | cons name rest ih =>
    obtain ⟨-, next, stepped, found⟩ := follow_cons_iff.mp found
    rw [ih found, eq_enter_of_step stepped]
    rfl

theorem eq_destination_of_locate (found : t.locate path = .ok place) : place = t.destination path :=
  eq_resolve_of_follow (locate_eq_ok.mp found).2

theorem resolve_append (start : Location) (names more : List String) :
    resolve start (names ++ more) = resolve (resolve start names) more :=
  List.foldl_append

theorem resolve_dots (dots : ∀ name ∈ names, name = ".") (start : Location) :
    resolve start names = start := by
  induction names with
  | nil => rfl
  | cons name rest ih =>
    obtain ⟨rfl, later⟩ := List.forall_mem_cons.mp dots
    exact ih later

/-- A relative name leads on from where the directory leads to. -/
theorem destination_join (relative : Path.isAbsolute name = false) (t : FileTree) (base : String) :
    t.destination (Path.join base name) = resolve (t.destination base) (Path.names name) := by
  rw [destination, Path.isAbsolute_join relative, Path.names_join relative, resolve_append]
  rfl

/-- An absolute name leads on from the root. -/
theorem destination_join_absolute (absolute : Path.isAbsolute name = true) (t : FileTree)
    (base : String) : t.destination (Path.join base name) = resolve [] (Path.names name) := by
  rw [Path.join_absolute absolute, destination, if_pos absolute]

/-! ## Up and down -/

/-- So many names up, and then down along some names. -/
structure Course where
  up : Nat := 0
  down : List String := []
  deriving DecidableEq, Repr

namespace Course

/-- Where a course leads to. The root is above everything. -/
def reach (c : Course) (start : Location) : Location :=
  start.take (start.length - c.up) ++ c.down

/-- Going up takes back the last name that led down, if there is one. -/
def enter (c : Course) (name : String) : Course :=
  if name = "." then c
  else if name = ".." then
    match c.down with
    | [] => { c with up := c.up + 1 }
    | _ :: _ => { c with down := c.down.dropLast }
  else { c with down := c.down ++ [name] }

theorem reach_enter (c : Course) (name : String) (start : Location) :
    (c.enter name).reach start = FileTree.enter (c.reach start) name := by
  obtain ⟨up, down⟩ := c
  by_cases dot : name = "."
  · simp only [enter, FileTree.enter, if_pos dot]
  by_cases above : name = ".."
  · cases down with
    | nil =>
      -- at the root both sides stay where they are, as subtraction does at zero
      simp only [enter, FileTree.enter, if_neg dot, if_pos above, reach, List.append_nil,
        List.dropLast_eq_take, List.take_take, List.length_take]
      congr 1
      omega
    | cons first rest =>
      simp only [enter, FileTree.enter, if_neg dot, if_pos above, reach]
      rw [List.dropLast_append_of_ne_nil (List.cons_ne_nil first rest)]
  · simp only [enter, FileTree.enter, if_neg dot, if_neg above, reach, List.append_assoc]

/-- A course stays below its start if it comes down again through all that it leaves. -/
theorem prefix_reach_iff (c : Course) (start : Location) :
    start <+: c.reach start ↔ start.drop (start.length - c.up) <+: c.down := by
  calc start <+: c.reach start
    _ ↔ start.take (start.length - c.up) ++ start.drop (start.length - c.up) <+: c.reach start := by
      rw [List.take_append_drop]
    _ ↔ start.drop (start.length - c.up) <+: c.down := List.prefix_append_right_inj _

end Course

/-- What names do to any place. -/
def course (names : List String) : Course :=
  names.foldl Course.enter {}

theorem resolve_eq_reach (names : List String) (start : Location) :
    resolve start names = (course names).reach start := by
  have none : start = ({} : Course).reach start := by simp [Course.reach]
  rw [resolve, course]
  conv_lhs => rw [none]
  exact List.foldl_hom (fun c : Course => c.reach start) fun c name => (c.reach_enter name start).symm

theorem up_foldl_enter (level : ".." ∉ names) (c : Course) : (names.foldl Course.enter c).up = c.up := by
  induction names generalizing c with
  | nil => rfl
  | cons name rest ih =>
    obtain ⟨above, level⟩ := List.ne_and_not_mem_of_not_mem_cons level
    have kept : (c.enter name).up = c.up := by
      rw [Course.enter, if_neg above.symm]
      split <;> rfl
    rw [List.foldl_cons, ih level, kept]

/-- Only double dots lead up. -/
theorem up_course (level : ".." ∉ names) : (course names).up = 0 :=
  up_foldl_enter level {}

theorem prefix_resolve_iff (start : Location) (names : List String) :
    start <+: resolve start names ↔
      start.drop (start.length - (course names).up) <+: (course names).down := by
  rw [resolve_eq_reach, Course.prefix_reach_iff]

/-- Names without double dots lead down only. -/
theorem prefix_resolve (level : ".." ∉ names) (start : Location) : start <+: resolve start names := by
  rw [prefix_resolve_iff, up_course level, Nat.sub_zero, List.drop_length]
  exact List.nil_prefix

end FileTree

end CommandVerbs
