import CommandVerbs.Proofs.Files.Writing
import CommandVerbs.Proofs.Text.Lines

/-! A file that can be read can be written anew: the way to it leads through directories that are
there, so none has to be made. -/
namespace CommandVerbs

namespace Path

variable {path directory piece : String} {pieces more idle : List String}

/-- What says nothing within a path. -/
def Idle (piece : String) : Prop := piece = "" ∨ piece = "."

theorem undivided_of_mem_splitAt (member : piece ∈ Text.splitAt '/' path) : '/' ∉ piece.toList := by
  obtain ⟨chars, within, rfl⟩ := List.mem_map.mp member
  rw [String.toList_ofList]
  exact Text.not_mem_of_mem_segments within

theorem intercalate_splitAt (path : String) : "/".intercalate (Text.splitAt '/' path) = path := by
  apply String.toList_injective
  rw [String.toList_intercalate, Text.splitAt, List.map_map, Text.segments_eq_splitOn]
  have same : String.toList ∘ String.ofList = id := funext fun _ => String.toList_ofList
  rw [same, List.map_id]
  exact List.intercalate_splitOn '/'

theorem splitAt_intercalate (some : pieces ≠ []) (undivided : ∀ piece ∈ pieces, '/' ∉ piece.toList) :
    Text.splitAt '/' ("/".intercalate pieces) = pieces := by
  rw [Text.splitAt, Text.segments_eq_splitOn, String.toList_intercalate]
  change ((['/'].intercalate (pieces.map String.toList)).splitOn '/').map String.ofList = pieces
  rw [List.splitOn_intercalate '/' (by simpa using undivided) (by simpa using some), List.map_map]
  have same : String.ofList ∘ String.toList = id := funext fun _ => String.ofList_toList
  rw [same, List.map_id]

theorem intercalate_prefix (pieces more : List String) :
    ("/".intercalate pieces).toList <+: ("/".intercalate (pieces ++ more)).toList := by
  induction pieces with
  | nil => simp
  | cons first rest ih =>
    cases rest with
    | nil =>
      cases more with
      | nil => simp
      | cons second more => simp [String.intercalate_cons_cons, List.append_assoc]
    | cons second rest =>
      simp only [List.cons_append, String.intercalate_cons_cons, String.toList_append] at ih ⊢
      exact (List.prefix_append_right_inj _).mpr ih

theorem isAbsolute_of_undivided (undivided : '/' ∉ piece.toList) : isAbsolute piece = false := by
  rw [isAbsolute, beq_eq_false_iff_ne]
  exact fun first => undivided (List.mem_of_head? first)

/-- A path of several pieces starts at the root if the first of them is empty. -/
theorem isAbsolute_intercalate (undivided : '/' ∉ piece.toList) (some : more ≠ []) :
    isAbsolute ("/".intercalate (piece :: more)) = (piece == "") := by
  obtain ⟨second, more, rfl⟩ := List.exists_cons_of_ne_nil some
  by_cases empty : piece = ""
  · simp [isAbsolute, empty, String.intercalate_cons_cons]
  · have first : piece.toList ≠ [] := by simpa using empty
    rw [beq_eq_false_iff_ne.mpr empty, isAbsolute, String.intercalate_cons_cons, String.toList_append,
      String.toList_append, List.append_assoc, List.head?_append_of_ne_nil _ first]
    exact isAbsolute_of_undivided undivided

theorem dropIdle_short (short : ∀ piece next rest, pieces = piece :: next :: rest → False) :
    dropIdle pieces = pieces := by
  unfold dropIdle
  split
  · exact absurd rfl (short _ _ _)
  · rfl

theorem dropIdle_append (pieces : List String) :
    ∃ idle, pieces = idle ++ dropIdle pieces ∧ ∀ piece ∈ idle, Idle piece := by
  induction pieces using dropIdle.induct with
  | case1 piece next rest empty ih =>
    obtain ⟨idle, split, all⟩ := ih
    refine ⟨piece :: idle, ?_, List.forall_mem_cons.mpr ⟨empty, all⟩⟩
    rw [dropIdle, if_pos empty, List.cons_append, ← split]
  | case2 piece next rest solid =>
    refine ⟨[], ?_, by simp⟩
    rw [dropIdle, if_neg solid, List.nil_append]
  | case3 pieces short =>
    refine ⟨[], ?_, by simp⟩
    rw [dropIdle_short short, List.nil_append]

theorem not_idle_of_dropIdle {next : String} (shape : dropIdle pieces = piece :: next :: more) :
    ¬Idle piece := by
  induction pieces using dropIdle.induct with
  | case1 first second rest empty ih =>
    rw [dropIdle, if_pos empty] at shape
    exact ih shape
  | case2 first second rest solid =>
    rw [dropIdle, if_neg solid] at shape
    exact (List.cons.inj shape).1 ▸ solid
  | case3 pieces short =>
    rw [dropIdle_short short] at shape
    exact absurd shape (short _ _ _)

theorem dropIdle_ne_nil (some : pieces ≠ []) : dropIdle pieces ≠ [] := by
  induction pieces using dropIdle.induct with
  | case1 first second rest empty ih =>
    rw [dropIdle, if_pos empty]
    exact ih (List.cons_ne_nil _ _)
  | case2 first second rest solid =>
    rw [dropIdle, if_neg solid]
    exact List.cons_ne_nil _ _
  | case3 pieces short =>
    rw [dropIdle_short short]
    exact some

/-- The pieces of a path are those of the directory above, perhaps some that say nothing, one that does,
and what comes behind it. -/
theorem exists_pieces_of_parent? (above : parent? path = some directory) (named : directory ≠ "") :
    ∃ pieces between name behind, Text.splitAt '/' path = pieces ++ between ++ name :: behind ∧
      pieces ≠ [] ∧ (∀ piece ∈ between, Idle piece) ∧ ¬Idle name ∧
      (pieces = [""] ∧ directory = "/" ∨ pieces ≠ [""] ∧ directory = "/".intercalate pieces) := by
  obtain ⟨behind, whole, -⟩ := dropIdle_append (Text.splitAt '/' path).reverse
  unfold parent? at above
  rcases shape : dropIdle (Text.splitAt '/' path).reverse with - | ⟨name, - | ⟨next, rest⟩⟩
  · simp [shape] at above
  · rw [shape] at above
    split at above <;> simp_all
  rw [shape] at above whole
  obtain ⟨between, front, idle⟩ := dropIdle_append (next :: rest)
  refine ⟨(dropIdle (next :: rest)).reverse, between.reverse, name, behind.reverse, ?_, ?_, ?_,
    not_idle_of_dropIdle shape, ?_⟩
  · rw [front] at whole
    simpa using congrArg List.reverse whole
  · simpa using dropIdle_ne_nil (List.cons_ne_nil next rest)
  · simpa using idle
  · simp only at above
    split at above
    · rename_i root
      exact .inl ⟨by simp [root], (Option.some.inj above).symm⟩
    · rename_i other
      refine .inr ⟨fun same => other ?_, (Option.some.inj above).symm⟩
      simpa using congrArg List.reverse same

theorem filter_idle (all : ∀ piece ∈ idle, Idle piece) : ∀ name ∈ idle.filter (· != ""), name = "." := by
  intro name member
  obtain ⟨within, solid⟩ := List.mem_filter.mp member
  exact (all name within).resolve_left (by simpa using solid)

/-- The names on the way to the directory above come first on the way along a path. -/
theorem names_of_parent? (above : parent? path = some directory) (named : directory ≠ "") :
    (∃ dots name behind, names path = names directory ++ dots ++ name :: behind ∧
      ∀ dot ∈ dots, dot = ".") ∧
    isAbsolute directory = isAbsolute path ∧ directory.toList <+: path.toList := by
  obtain ⟨pieces, between, name, behind, whole, some, idle, solid, shape⟩ :=
    exists_pieces_of_parent? above named
  have undivided : ∀ piece ∈ pieces, '/' ∉ piece.toList := by
    intro piece member
    have within : piece ∈ Text.splitAt '/' path := by simp [whole, member]
    exact undivided_of_mem_splitAt within
  have text : path = "/".intercalate (pieces ++ (between ++ name :: behind)) := by
    rw [← List.append_assoc, ← whole, intercalate_splitAt]
  have present : name ≠ "" := fun empty => solid (.inl empty)
  obtain ⟨first, rest, rfl⟩ := List.exists_cons_of_ne_nil some
  have absolute : isAbsolute path = (first == "") := by
    rw [text]
    exact isAbsolute_intercalate (undivided first List.mem_cons_self) (by simp)
  have split : names path = (first :: rest).filter (· != "") ++ between.filter (· != "") ++
      name :: behind.filter (· != "") := by
    have kept : (name :: behind).filter (· != "") = name :: behind.filter (· != "") :=
      List.filter_cons_of_pos (by simpa using present)
    rw [names, whole, List.filter_append, List.filter_append, kept]
  have directories : names directory = (first :: rest).filter (· != "") := by
    rcases shape with ⟨root, rfl⟩ | ⟨-, rfl⟩
    · rw [root]
      decide +kernel
    · rw [names, splitAt_intercalate some undivided]
  refine ⟨⟨between.filter (· != ""), name, behind.filter (· != ""), directories ▸ split,
    filter_idle idle⟩, ?_⟩
  rw [absolute]
  rcases shape with ⟨root, rfl⟩ | ⟨other, rfl⟩
  · obtain ⟨rfl, rfl⟩ := List.cons.inj root
    refine ⟨rfl, ?_⟩
    obtain ⟨second, later, shape⟩ := List.exists_cons_of_ne_nil
      (show between ++ name :: behind ≠ [] by simp)
    rw [text, shape, List.singleton_append, String.intercalate_cons_cons]
    simp
  · refine ⟨?_, text ▸ intercalate_prefix _ _⟩
    cases rest with
    | nil =>
      have nonempty : first ≠ "" := by simpa using other
      rw [String.intercalate_singleton, beq_eq_false_iff_ne.mpr nonempty]
      exact isAbsolute_of_undivided (undivided first List.mem_cons_self)
    | cons second rest =>
      exact isAbsolute_intercalate (undivided first List.mem_cons_self) (by simp)

end Path

namespace FileTree

variable {t : FileTree} {place start above : Location} {path directory : String}
  {names more : List String} {content : Content}

theorem follow_append (t : FileTree) (start : Location) (names more : List String) :
    t.follow start (names ++ more) = t.follow start names >>= (t.follow · more) := by
  induction names generalizing start with
  | nil => rfl
  | cons name rest ih =>
    rw [List.cons_append, follow, follow]
    split
    · rfl
    · rfl
    · split
      · exact ih _
      · split
        · exact ih _
        · split
          · rfl
          · exact ih _

/-- A place that is left by a name is a directory. -/
theorem directory_of_follow {name : String} (followed : t.follow start (name :: more) = .ok place) :
    t.node? start = some .directory :=
  (follow_cons_iff.mp followed).1

theorem follow_dots (dots : ∀ name ∈ names, name = ".") (followed : t.follow start names = .ok place) :
    place = start := by
  induction names with
  | nil => exact (Except.ok.inj followed).symm
  | cons name rest ih =>
    obtain ⟨rfl, later⟩ := List.forall_mem_cons.mp dots
    rw [follow, directory_of_follow followed] at followed
    exact ih later followed

/-- The way along a path leads through the directory above. -/
theorem locate_parent (located : t.locate path = .ok place)
    (parent : Path.parent? path = some directory) (named : directory ≠ "") :
    ∃ above, t.locate directory = .ok above ∧ t.node? above = some .directory := by
  obtain ⟨⟨dots, name, behind, names, idle⟩, absolute, front⟩ := Path.names_of_parent? parent named
  obtain ⟨rest, text⟩ := front
  obtain ⟨⟨-, zero, long⟩, located⟩ := locate_eq_ok.mp located
  have size : directory.utf8ByteSize ≤ path.utf8ByteSize := by
    have whole : path = directory ++ String.ofList rest := by
      apply String.toList_injective
      rw [String.toList_append, String.toList_ofList, text]
    rw [whole, String.utf8ByteSize_append]
    exact Nat.le_add_right _ _
  have sound : ¬directory.isEmpty ∧ ¬directory.toList.contains '\x00' ∧
      ¬pathLimit ≤ directory.utf8ByteSize := by
    refine ⟨by simpa using named, fun within => zero ?_, fun long' => long (long'.trans size)⟩
    rw [List.contains_iff_mem] at within ⊢
    exact text ▸ List.mem_append_left rest within
  rw [names, List.append_assoc, follow_append] at located
  cases followed : t.follow (if Path.isAbsolute path then [] else t.workingDirectory)
      (Path.names directory) with
  | error fault =>
    rw [followed] at located
    contradiction
  | ok above =>
    rw [followed] at located
    refine ⟨above, locate_eq_ok.mpr ⟨sound, by rwa [absolute]⟩, ?_⟩
    change t.follow above (dots ++ name :: behind) = .ok place at located
    rw [follow_append] at located
    cases still : t.follow above dots with
    | error fault =>
      rw [still] at located
      contradiction
    | ok same =>
      rw [still] at located
      obtain rfl := follow_dots idle still
      exact directory_of_follow located

theorem isDirectory_iff : t.isDirectory path ↔
    ∃ place, t.locate path = .ok place ∧ t.node? place = some .directory := by
  unfold isDirectory lookup
  cases located : t.locate path with
  | error fault => simp
  | ok place =>
    cases present : t.node? place with
    | none => simp [present]
    | some node =>
      cases node with
      | directory => simp [present]
      | file => cases slash : Path.endsWithSlash path <;> simp [present]

/-- No directory is made where there is one. -/
theorem makeDirectories_present (located : t.locate directory = .ok place)
    (present : t.node? place = some .directory) : t.makeDirectories directory = (t, .ok ()) := by
  have made : t.makeDirectory directory = .error .present := by
    simp only [makeDirectory, located, present]
  have there : t.isDirectory directory := by
    simp only [isDirectory, lookup, located, present]
  have first : t.makeLongest [] (Path.makeable directory) = .ok (t, []) := by
    rw [Path.makeable, Path.ancestors]
    split
    · rfl
    · simp [makeLongest, made, there]
  simp only [makeDirectories, first, makeEach]

theorem read_eq_ok {text : String} (held : t.read path = .ok text) :
    ∃ place mode, t.locate path = .ok place ∧ t.node? place = some (.file (.text text) mode) ∧
      Path.endsWithSlash path = false := by
  unfold read lookup at held
  cases located : t.locate path with
  | error fault => simp [located] at held
  | ok place =>
    cases present : t.node? place with
    | none => simp [located, present] at held
    | some node =>
      cases node with
      | directory => simp [located, present] at held
      | file content mode =>
        cases slash : Path.endsWithSlash path with
        | true => simp [located, present, slash] at held
        | false =>
          cases content with
          | bytes => simp [located, present, slash] at held
          | text value =>
            simp only [located, present, slash] at held
            obtain rfl := Except.ok.inj held
            exact ⟨place, mode, rfl, present, rfl⟩

/-- A file that has been read takes any other content. -/
theorem write_of_read {text : String} (held : t.read path = .ok text) (content : Content) :
    ∃ u, t.write path content = .ok u := by
  obtain ⟨place, mode, located, present, slash⟩ := read_eq_ok held
  refine ⟨t.put place (.file content mode), ?_⟩
  simp [write, located, present, slash]

end FileTree

end CommandVerbs
