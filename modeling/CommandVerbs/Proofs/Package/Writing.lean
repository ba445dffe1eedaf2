import CommandVerbs.Package.Scripts
import CommandVerbs.Proofs.Files.Writing

/-! What packaging writes. A script is written whole or not at all, and nothing else is touched; it stays
with the mode that it has if that cannot be set. So the scripts of some names leave at each place the
script of the last of the names that lead there, and everything else as it was; and packaging either
is refused, or makes the directory and writes the scripts up to the first that fails. -/
namespace CommandVerbs

namespace FileTree

variable {t u v : FileTree} {place : Location} {node other : Node}

/-- Nothing but the node at one place tells `u` from `t`. -/
structure PutAt (t u : FileTree) (place : Location) (node : Node) : Prop where
  frame : t.SameFrame u
  here : u.node? place = some node
  elsewhere : ∀ q, q ≠ place → u.node? q = t.node? q

theorem put_putAt (file : t.node? place ≠ some .directory) (node : Node) :
    PutAt t (t.put place node) place node where
  frame := put_sameFrame t place node
  here := node?_put_same node (not_prefix_of_file file)
  elsewhere _ different := node?_put_other t node different

theorem PutAt.again (first : PutAt t u place node) (second : PutAt u v place other) :
    PutAt t v place other where
  frame := first.frame.trans second.frame
  here := second.here
  elsewhere q different := (second.elsewhere q different).trans (first.elsewhere q different)

/-- The mode of a program that has been written at a place. -/
def programModeAt (t : FileTree) (place : Location) : Nat :=
  if t.fixedModes.contains place then t.writtenMode place else programMode

end FileTree

namespace Packager

variable {p : Packager} {r : PackageRequest} {t u v : FileTree} {place : Location} {path text : String}
  {names more : List String}

/-- A program is written as such, or the files stay as they are. It is written also where its mode
cannot be set. -/
theorem writeProgram_cases (t : FileTree) (path text : String) :
    (∃ fault, t.write path (.text text) = .error fault ∧ writeProgram t path text = (t, .error fault)) ∨
    ∃ place u, t.locate path = .ok place ∧ t.node? place ≠ some .directory ∧
      Path.endsWithSlash path = false ∧ t.PutAt u place (.file (.text text) (t.programModeAt place)) ∧
      writeProgram t path text =
        (u, if place ∈ t.fixedModes then .error .notPermitted else .ok ()) := by
  cases written : t.write path (.text text) with
  | error fault => exact .inl ⟨fault, rfl, by rw [writeProgram, written]⟩
  | ok u =>
    obtain ⟨place, located, file, slash, same⟩ := FileTree.write_eq_ok written
    have put : t.PutAt u place _ := same ▸ FileTree.put_putAt file _
    have there : u.locate path = .ok place := same ▸ FileTree.locate_put located file _
    by_cases fixed : place ∈ t.fixedModes
    · have refused : u.setMode path FileTree.programMode = .error .notPermitted := by
        simp only [FileTree.setMode, there, put.here, put.frame.2, if_pos fixed]
      refine .inr ⟨place, u, located, file, slash, ?_, ?_⟩
      · rwa [FileTree.programModeAt, if_pos (List.contains_iff_mem.mpr fixed)]
      · simp only [writeProgram, written, refused, if_pos fixed]
    · have still : u.node? place ≠ some .directory := by simp [put.here]
      let last := u.put place (.file (.text text) FileTree.programMode)
      have moded : u.setMode path FileTree.programMode = .ok last := by
        simp only [FileTree.setMode, there, put.here, put.frame.2, if_neg fixed, last]
      refine .inr ⟨place, last, located, file, slash, ?_, ?_⟩
      · rw [FileTree.programModeAt, if_neg (mt List.contains_iff_mem.mp fixed)]
        exact put.again (FileTree.put_putAt still _)
      · simp only [writeProgram, written, moded, if_neg fixed]

/-- Whether the target of a name leads to a place. -/
def leadsTo (r : PackageRequest) (t : FileTree) (place : Location) (name : String) : Bool :=
  match t.locate (target r name) with
  | .ok there => there == place
  | .error _ => false

@[simp] theorem leadsTo_iff {name : String} :
    leadsTo r t place name = true ↔ t.locate (target r name) = .ok place := by
  unfold leadsTo
  split <;> simp [*]

/-- What the scripts of some names leave at a place: the script of the last that leads there. -/
def scriptAt? (p : Packager) (r : PackageRequest) (t : FileTree) (names : List String)
    (place : Location) : Option Node :=
  (names.reverse.find? (leadsTo r t place)).map fun name =>
    .file (.text (p.script name)) (t.programModeAt place)

/-- The scripts of some names, and nothing else, tell `u` from `t`. -/
structure Scripted (p : Packager) (r : PackageRequest) (names : List String) (t u : FileTree) :
    Prop where
  frame : t.SameFrame u
  reached : ∀ name ∈ names, ∃ place, t.locate (target r name) = .ok place ∧
    t.node? place ≠ some .directory ∧ Path.endsWithSlash (target r name) = false
  node : ∀ place, u.node? place = (p.scriptAt? r t names place).or (t.node? place)

theorem scriptAt?_eq_some {node : Node} (found : p.scriptAt? r t names place = some node) :
    ∃ name ∈ names, t.locate (target r name) = .ok place ∧
      node = .file (.text (p.script name)) (t.programModeAt place) := by
  obtain ⟨name, last, rfl⟩ := Option.map_eq_some_iff.mp found
  exact ⟨name, List.mem_reverse.mp (List.mem_of_find?_eq_some last),
    leadsTo_iff.mp (List.find?_some last), rfl⟩

theorem scriptAt?_eq_none : p.scriptAt? r t names place = none ↔
    ∀ name ∈ names, t.locate (target r name) ≠ .ok place := by
  simp [scriptAt?, ← leadsTo_iff]

theorem scriptAt?_append (p : Packager) (r : PackageRequest) (t : FileTree) (names more : List String)
    (place : Location) : p.scriptAt? r t (names ++ more) place =
      (p.scriptAt? r t more place).or (p.scriptAt? r t names place) := by
  rw [scriptAt?, List.reverse_append, List.find?_append, Option.map_or]
  rfl

/-- Scripts do not take the place of directories, nor of nothing on the way to anything. -/
theorem Scripted.directory_iff (scripted : Scripted p r names t u) (place : Location) :
    u.node? place = some .directory ↔ t.node? place = some .directory := by
  rw [scripted.node]
  cases found : p.scriptAt? r t names place with
  | none => rfl
  | some node =>
    obtain ⟨name, member, leads, rfl⟩ := scriptAt?_eq_some found
    obtain ⟨here, located, file, -⟩ := scripted.reached name member
    obtain rfl := Except.ok.inj (located.symm.trans leads)
    simp [file]

theorem Scripted.locate_iff (scripted : Scripted p r names t u) :
    u.locate path = .ok place ↔ t.locate path = .ok place :=
  ⟨FileTree.locate_of_directories scripted.frame.1.symm fun q => (scripted.directory_iff q).mp,
    FileTree.locate_of_directories scripted.frame.1 fun q => (scripted.directory_iff q).mpr⟩

/-- Where modes are fixed, what is written keeps the mode that is there. -/
theorem Scripted.programModeAt_eq (scripted : Scripted p r names t u) (place : Location) :
    u.programModeAt place = t.programModeAt place := by
  rw [FileTree.programModeAt, FileTree.programModeAt, scripted.frame.2]
  split
  · rename_i fixed
    rw [FileTree.writtenMode, scripted.node]
    cases found : p.scriptAt? r t names place with
    | none => rfl
    | some node =>
      obtain ⟨name, -, -, rfl⟩ := scriptAt?_eq_some found
      simp only [Option.some_or, FileTree.programModeAt, if_pos fixed]
  · rfl

theorem Scripted.scriptAt?_eq (scripted : Scripted p r names t u) (more : List String)
    (place : Location) : p.scriptAt? r u more place = p.scriptAt? r t more place := by
  have same : leadsTo r u place = leadsTo r t place := by
    funext name
    rw [Bool.eq_iff_iff, leadsTo_iff, leadsTo_iff, scripted.locate_iff]
  rw [scriptAt?, scriptAt?, same, scripted.programModeAt_eq]

theorem Scripted.nil (p : Packager) (r : PackageRequest) (t : FileTree) : Scripted p r [] t t where
  frame := .refl t
  reached := by simp
  node _ := rfl

theorem Scripted.append (first : Scripted p r names t u) (second : Scripted p r more u v) :
    Scripted p r (names ++ more) t v where
  frame := first.frame.trans second.frame
  reached name member := by
    rcases List.mem_append.mp member with early | late
    · exact first.reached name early
    · obtain ⟨place, located, file, slash⟩ := second.reached name late
      exact ⟨place, first.locate_iff.mp located, fun directory =>
        file ((first.directory_iff place).mpr directory), slash⟩
  node place := by
    rw [second.node, first.node, scriptAt?_append, first.scriptAt?_eq, Option.or_assoc]

theorem scripted_single {name : String} (located : t.locate (target r name) = .ok place)
    (file : t.node? place ≠ some .directory) (slash : Path.endsWithSlash (target r name) = false)
    (put : t.PutAt u place (.file (.text (p.script name)) (t.programModeAt place))) :
    Scripted p r [name] t u where
  frame := put.frame
  reached := by
    rintro _ (_ | _)
    · exact ⟨place, located, file, slash⟩
    · contradiction
  node q := by
    by_cases here : q = place
    · subst here
      have leads : leadsTo r t q name = true := leadsTo_iff.mpr located
      simp [scriptAt?, leads, put.here]
    · have other : leadsTo r t q name = false := by
        simp [← Bool.not_eq_true, located, Ne.symm here]
      simp [scriptAt?, other, put.elsewhere q here]

/-- The scripts of some names lead to places where their modes can be set. -/
def Settable (r : PackageRequest) (names : List String) (t : FileTree) : Prop :=
  ∀ name ∈ names, ∀ place, t.locate (target r name) = .ok place → place ∉ t.fixedModes

theorem Scripted.settable_iff (scripted : Scripted p r names t u) (more : List String) :
    Settable r more u ↔ Settable r more t := by
  simp only [Settable, scripted.locate_iff, scripted.frame.2]

theorem settable_single {name : String} (located : t.locate (target r name) = .ok place)
    (free : place ∉ t.fixedModes) : Settable r [name] t := by
  rintro _ (_ | _) there leads
  · exact Except.ok.inj (located.symm.trans leads) ▸ free
  · contradiction

theorem Settable.append (first : Settable r names t) (second : Settable r more t) :
    Settable r (names ++ more) t := fun name member =>
  (List.mem_append.mp member).elim (first name) (second name)

/-- What a failure at a name leaves: its script could not be written, or was written and its mode could
not be set. -/
inductive StoppedAt (p : Packager) (r : PackageRequest) (before : List String) (name : String)
    (t u : FileTree) : FileFault → Prop
  | unwritten {fault : FileFault} (scripted : Scripted p r before t u)
      (refused : u.write (target r name) (.text (p.script name)) = .error fault) :
      StoppedAt p r before name t u fault
  | unmoded {place : Location} (scripted : Scripted p r (before ++ [name]) t u)
      (located : u.locate (target r name) = .ok place) (fixed : place ∈ t.fixedModes) :
      StoppedAt p r before name t u .notPermitted

/-- A failure after other scripts have been written. -/
theorem StoppedAt.after {before : List String} {name : String} {fault : FileFault}
    (first : Scripted p r names t u) (stopped : StoppedAt p r before name u v fault) :
    StoppedAt p r (names ++ before) name t v fault := by
  cases stopped with
  | unwritten scripted refused => exact .unwritten (first.append scripted) refused
  | unmoded scripted located fixed =>
    refine .unmoded ?_ located (first.frame.2 ▸ fixed)
    rw [List.append_assoc]
    exact first.append scripted

/-- Scripts are written in order, up to the first that fails. -/
theorem writeEach_cases (p : Packager) (r : PackageRequest) (t : FileTree) (names : List String) :
    (∃ u, p.writeEach r t names = (u, names.length, .ok ()) ∧ Scripted p r names t u ∧
      Settable r names t) ∨
    ∃ before name after u fault, names = before ++ name :: after ∧
      p.writeEach r t names = (u, before.length, .error fault) ∧
      StoppedAt p r before name t u fault ∧ Settable r before t := by
  induction names generalizing t with
  | nil => exact .inl ⟨t, rfl, .nil p r t, by simp [Settable]⟩
  | cons name rest ih =>
    rcases writeProgram_cases t (target r name) (p.script name) with
      ⟨fault, refused, wrote⟩ | ⟨place, next, located, file, slash, put, wrote⟩
    · refine .inr ⟨[], name, rest, t, fault, rfl, ?_, .unwritten (.nil p r t) refused, by simp [Settable]⟩
      unfold writeEach
      simp only [wrote, List.length_nil]
    have first : Scripted p r [name] t next := scripted_single located file slash put
    by_cases fixed : place ∈ t.fixedModes
    · rw [if_pos fixed] at wrote
      refine .inr ⟨[], name, rest, next, .notPermitted, rfl, ?_,
        .unmoded first (first.locate_iff.mpr located) fixed, by simp [Settable]⟩
      unfold writeEach
      simp only [wrote, List.length_nil]
    rw [if_neg fixed] at wrote
    have free : Settable r [name] t := settable_single located fixed
    rcases ih next with ⟨u, all, scripted, settable⟩ |
      ⟨before, bad, after, u, fault, rfl, some, stopped, settable⟩
    · refine .inl ⟨u, ?_, first.append scripted, free.append ((first.settable_iff rest).mp settable)⟩
      unfold writeEach
      simp only [wrote, all, List.length_cons]
    · refine .inr ⟨name :: before, bad, after, u, fault, rfl, ?_, .after first stopped,
        free.append ((first.settable_iff before).mp settable)⟩
      unfold writeEach
      simp only [wrote, some, List.length_cons]

end Packager

end CommandVerbs
