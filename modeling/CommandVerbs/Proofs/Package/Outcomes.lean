import CommandVerbs.Proofs.Files.Rewriting
import CommandVerbs.Proofs.Files.Ways
import CommandVerbs.Proofs.Package.Writing

/-! How packaging ends, and what it has done to the files by then. -/
namespace CommandVerbs.Packager

variable {p : Packager} {r : PackageRequest} {files made left : FileTree} {place : Location}
  {names : List String} {name : String} {content : Content} {mode : Nat}

/-- The ways in which packaging ends: it is refused, the directory cannot be made, a script cannot be
written or its mode not be set, or all is done. -/
inductive Packaged (p : Packager) (r : PackageRequest) (files : FileTree) :
    FileTree × Nat × Except Fault (List String) → Prop
  | refused (careful : r.force = false) (occupied : (p.targets r).filter files.contains ≠ []) :
      Packaged p r files (files, 0, .error (.aborted
        "Output files exist, delete them or use the force option to overwrite:"
        ((p.targets r).filter files.contains)))
  | unmade {made : FileTree} {fault : FileFault}
      (allowed : r.force = false → (p.targets r).filter files.contains = [])
      (making : files.makeDirectories (directory r) = (made, .error fault)) :
      Packaged p r files (made, 0, .error (.output fault.message))
  | stopped {made left : FileTree} {before after : List String} {name : String} {fault : FileFault}
      (allowed : r.force = false → (p.targets r).filter files.contains = [])
      (making : files.makeDirectories (directory r) = (made, .ok ()))
      (asked : p.names r = before ++ name :: after)
      (stopped : StoppedAt p r before name made left fault) (settable : Settable r before made) :
      Packaged p r files (left, before.length, .error (.output fault.message))
  | done {made left : FileTree}
      (allowed : r.force = false → (p.targets r).filter files.contains = [])
      (making : files.makeDirectories (directory r) = (made, .ok ()))
      (scripted : Scripted p r (p.names r) made left) (settable : Settable r (p.names r) made) :
      Packaged p r files (left, (p.names r).length, .ok (p.targets r))

theorem package_packaged (p : Packager) (r : PackageRequest) (files : FileTree) :
    Packaged p r files (p.package r files) := by
  by_cases refused : r.force = false ∧ (p.targets r).filter files.contains ≠ []
  · have checked : (!r.force && !((p.targets r).filter files.contains).isEmpty) = true := by
      simpa using refused
    rw [package]
    simp only [checked, if_true]
    exact .refused refused.1 refused.2
  have allowed : r.force = false → (p.targets r).filter files.contains = [] := by
    intro careful
    by_contra occupied
    exact refused ⟨careful, occupied⟩
  have checked : (!r.force && !((p.targets r).filter files.contains).isEmpty) = false := by
    simpa using allowed
  rw [package]
  simp only [checked, Bool.false_eq_true, if_false]
  rcases making : files.makeDirectories (directory r) with ⟨made, fault | ⟨⟩⟩
  · exact .unmade allowed making
  · rcases writeEach_cases p r made (p.names r) with
      ⟨left, wrote, scripted, settable⟩ |
      ⟨before, name, after, left, fault, asked, wrote, stopped, settable⟩
    · simp only [wrote]
      exact .done allowed making scripted settable
    · simp only [wrote]
      exact .stopped allowed making asked stopped settable

/-- What is there when it stops: the scripts of the names before, perhaps with the one at which it did. -/
theorem StoppedAt.scripted {fault : FileFault} (stopped : StoppedAt p r names name made left fault) :
    ∃ written, (written = names ∨ written = names ++ [name] ∧ fault = .notPermitted) ∧
      Scripted p r written made left := by
  cases stopped with
  | unwritten scripted _ => exact ⟨_, .inl rfl, scripted⟩
  | unmoded scripted _ _ => exact ⟨_, .inr ⟨rfl, rfl⟩, scripted⟩

/-! ## Without force -/

/-- Making directories leaves the mode that a program would get in place of a file. -/
theorem programModeAt_of_extended (extended : files.Extended made) (same : files.SameFrame made)
    (file : files.node? place = some (.file content mode)) :
    made.programModeAt place = files.programModeAt place := by
  rw [FileTree.programModeAt, FileTree.programModeAt, same.2, FileTree.writtenMode,
    FileTree.writtenMode, (extended.file place).mpr file, file]

/-- A file that was there stays, unless a script is written over it that could not be seen to lead
there before the directory was made. -/
theorem Scripted.keeps (scripted : Scripted p r names made left) (extended : files.Extended made)
    (same : files.SameFrame made)
    (free : ∀ name ∈ names, files.contains (target r name) = false)
    (file : files.node? place = some (.file content mode)) :
    left.node? place = some (.file content mode) ∨
      ∃ name ∈ names, files.locate (target r name) = .error .missing ∧
        made.locate (target r name) = .ok place ∧
        left.node? place = some (.file (.text (p.script name)) (files.programModeAt place)) := by
  have there := scripted.node place
  cases found : p.scriptAt? r made names place with
  | none =>
    left
    rw [there, found, Option.none_or, extended.file, file]
  | some node =>
    right
    obtain ⟨name, member, leads, rfl⟩ := scriptAt?_eq_some found
    rw [programModeAt_of_extended extended same file] at found
    refine ⟨name, member, ?_, leads, by rw [there, found, Option.some_or]⟩
    rcases extended.locate_before same.1 leads with before | missing
    · obtain ⟨-, -, -, slash⟩ := scripted.reached name member
      have present := free name member
      simp [FileTree.contains, FileTree.lookup, before, file, slash] at present
    · exact missing

theorem free_of_vacant (vacant : (p.targets r).filter files.contains = [])
    (member : name ∈ p.names r) : files.contains (target r name) = false := by
  have free := List.filter_eq_nil_iff.mp vacant (target r name) (List.mem_map_of_mem member)
  simpa using free

/-- For a script to be written over such a file, the output directory has to be missing and the name to
go up from it. -/
theorem Scripted.keeps_or_overwrites (scripted : Scripted p r names made left)
    (making : files.makeDirectories (directory r) = (made, .ok ()))
    (free : ∀ name ∈ names, files.contains (target r name) = false)
    (file : files.node? place = some (.file content mode)) :
    left.node? place = some (.file content mode) ∨
      files.isDirectory (directory r) = false ∧ ∃ name ∈ names,
        files.locate (target r name) = .error .missing ∧ left.locate (target r name) = .ok place ∧
        (files.Grounded → ".." ∈ Path.names (target r name)) ∧
        left.node? place = some (.file (.text (p.script name)) (files.programModeAt place)) := by
  have extended := FileTree.extended_of_making making
  have same := FileTree.sameFrame_of_making making
  rcases scripted.keeps extended same free file with kept | ⟨name, member, missing, leads, written⟩
  · exact .inl kept
  refine .inr ⟨?_, name, member, missing, scripted.locate_iff.mpr leads, ?_, written⟩
  · by_contra present
    obtain ⟨there, located, directory⟩ := FileTree.isDirectory_iff.mp (Bool.not_eq_false _ ▸ present)
    rw [FileTree.makeDirectories_present located directory] at making
    obtain rfl : files = made := congrArg Prod.fst making
    rw [missing] at leads
    contradiction
  · intro grounded
    by_contra level
    obtain ⟨-, way⟩ := FileTree.locate_eq_ok.mp leads
    rw [same.1] at way
    have before := extended.follow_level grounded level file way
    rw [FileTree.locate_of_sound leads files, before] at missing
    contradiction

/-- Without force, packaging is refused if a target is there, with the files as they were. Otherwise a
file is lost in one way only: the output directory has still to be made, and a name that goes up from it
leads nowhere until then, so that the check does not see the file to which it leads afterwards. -/
theorem careful_package_keeps (p : Packager) (files : FileTree) (careful : r.force = false) :
    ((p.targets r).filter files.contains ≠ [] →
      p.package r files = (files, 0, .error (.aborted
        "Output files exist, delete them or use the force option to overwrite:"
        ((p.targets r).filter files.contains)))) ∧
    ((p.targets r).filter files.contains = [] → ∀ place content mode,
      files.node? place = some (.file content mode) →
        (p.package r files).1.node? place = some (.file content mode) ∨
        files.isDirectory (directory r) = false ∧ ∃ name ∈ p.names r,
          files.locate (target r name) = .error .missing ∧
          (p.package r files).1.locate (target r name) = .ok place ∧
          (files.Grounded → ".." ∈ Path.names (target r name)) ∧
          (p.package r files).1.node? place =
            some (.file (.text (p.script name)) (files.programModeAt place))) := by
  have ended := package_packaged p r files
  generalize p.package r files = outcome at ended ⊢
  cases ended with
  | refused _ occupied => exact ⟨fun _ => rfl, fun free => absurd free occupied⟩
  | unmade allowed making =>
    refine ⟨fun occupied => absurd (allowed careful) occupied, fun _ place content mode file => .inl ?_⟩
    exact ((FileTree.extended_of_making making).file place).mpr file
  | @stopped made left before after name fault allowed making asked stopped _ =>
    refine ⟨fun occupied => absurd (allowed careful) occupied, fun free place content mode file => ?_⟩
    obtain ⟨written, which, scripted⟩ := stopped.scripted
    have within : ∀ name ∈ written, name ∈ p.names r := by
      rcases which with rfl | ⟨rfl, -⟩ <;> simp +contextual [asked, or_imp]
    rcases scripted.keeps_or_overwrites making
      (fun name member => free_of_vacant free (within name member)) file with
      kept | ⟨missing, name, member, overwritten⟩
    · exact .inl kept
    · exact .inr ⟨missing, name, within name member, overwritten⟩
  | done allowed making scripted _ =>
    refine ⟨fun occupied => absurd (allowed careful) occupied, fun free place content mode file => ?_⟩
    exact scripted.keeps_or_overwrites making (fun name => free_of_vacant free) file

/-- A working directory that holds a file. -/
def withAdmin : FileTree where
  workingDirectory := ["work"]
  nodes := [(["work", "admin"], .file (.text "keep") FileTree.plainMode)]

theorem careful_package_keeps_admin :
    let p : Packager := ⟨"/usr/bin/verbkit", "verbkit", none⟩
    let r : PackageRequest := { names := ["admin", "new"] }
    r.force = false ∧ p.package r withAdmin = (withAdmin, 0, .error (.aborted
      "Output files exist, delete them or use the force option to overwrite:" ["./admin"])) := by
  intro p r
  have occupied : (p.targets r).filter withAdmin.contains = ["./admin"] := by decide +kernel
  have careful : r.force = false := rfl
  obtain ⟨refused, -⟩ := careful_package_keeps p withAdmin careful
  rw [occupied] at refused
  exact ⟨careful, refused (by simp)⟩

/-- The directory `out` is made after the check and makes `out/../admin` a way to a file. -/
theorem overwritten_without_force :
    let r : PackageRequest := { directory := some "out", names := ["../admin"] }
    let left := (Packager.package ⟨"/usr/bin/verbkit", "verbkit", none⟩ r withAdmin).1
    r.force = false ∧ withAdmin.read "admin" = .ok "keep" ∧
      left.read "admin" =
        .ok "#!/bin/sh\n# ../admin: generated launcher\nexec \"/usr/bin/verbkit\" \"$@\"\n" := by
  decide +kernel

/-! ## Failure -/

/-- What no script leads to is as it was before the directory was made. -/
theorem Scripted.untouched (scripted : Scripted p r names made left) (extended : files.Extended made)
    (apart : ∀ name ∈ names, left.locate (target r name) ≠ .ok place) :
    left.node? place = files.node? place ∨
      files.node? place = none ∧ left.node? place = some .directory := by
  have nothing : p.scriptAt? r made names place = none :=
    scriptAt?_eq_none.mpr fun name member leads => apart name member (scripted.locate_iff.mpr leads)
  rw [scripted.node, nothing, Option.none_or]
  exact extended place

/-- Packaging that fails leaves the scripts of the names before the one at which it failed, and nothing
else but directories: it takes nothing back. The script of that name is left as well if it was only its
mode that could not be set. -/
theorem failed_package_leaves {count : Nat} {fault : Fault}
    (failed : p.package r files = (left, count, .error fault)) :
    ∃ made written, files.Extended made ∧ Scripted p r written made left ∧
      Settable r ((p.names r).take count) made ∧
      (∀ place, (∀ name ∈ written, left.locate (target r name) ≠ .ok place) →
        left.node? place = files.node? place ∨
          files.node? place = none ∧ left.node? place = some .directory) ∧
      (written = [] ∧ count = 0 ∧ left = files ∧ r.force = false ∧ fault = .aborted
          "Output files exist, delete them or use the force option to overwrite:"
          ((p.targets r).filter files.contains) ∨
        ∃ reason, fault = .output (FileFault.message reason) ∧
          (written = [] ∧ count = 0 ∧ files.makeDirectories (directory r) = (left, .error reason) ∨
            ∃ name, (p.names r)[count]? = some name ∧
              (written = (p.names r).take count ∧
                  left.write (target r name) (.text (p.script name)) = .error reason ∨
                written = (p.names r).take (count + 1) ∧ reason = .notPermitted ∧
                  ∃ place ∈ files.fixedModes, left.locate (target r name) = .ok place))) := by
  have ended := package_packaged p r files
  rw [failed] at ended
  cases ended with
  | refused careful occupied =>
    exact ⟨files, [], .refl files, .nil p r files, by simp [Settable], fun _ _ => .inl rfl,
      .inl ⟨rfl, rfl, rfl, careful, rfl⟩⟩
  | @unmade _ reason allowed making =>
    have extended := FileTree.extended_of_making making
    exact ⟨left, [], extended, .nil p r left, by simp [Settable], fun place _ => extended place,
      .inr ⟨reason, rfl, .inl ⟨rfl, rfl, making⟩⟩⟩
  | @stopped made _ before after name reason allowed making asked stopped settable =>
    have extended := FileTree.extended_of_making making
    have earlier : (p.names r).take before.length = before := by simp [asked]
    have next : (p.names r)[before.length]? = some name := by simp [asked]
    rw [← earlier] at settable
    cases stopped with
    | unwritten scripted refused =>
      exact ⟨made, before, extended, scripted, settable, fun _ => scripted.untouched extended,
        .inr ⟨reason, rfl, .inr ⟨name, next, .inl ⟨earlier.symm, refused⟩⟩⟩⟩
    | @unmoded place scripted located fixed =>
      have all : (p.names r).take (before.length + 1) = before ++ [name] := by
        rw [List.take_add_one, earlier, next, Option.toList_some]
      have same := FileTree.sameFrame_of_making making
      exact ⟨made, _, extended, scripted, settable, fun _ => scripted.untouched extended,
        .inr ⟨_, rfl, .inr ⟨name, next, .inr ⟨all.symm, rfl, place, same.2 ▸ fixed, located⟩⟩⟩⟩

/-- A script is written over another user's file, which keeps its mode. -/
theorem failed_package_leaves_forced :
    let files := { withAdmin with fixedModes := [["work", "admin"]] }
    let p : Packager := ⟨"/usr/bin/verbkit", "verbkit", none⟩
    let r : PackageRequest := { force := true, names := ["vm", "admin"] }
    let left := (p.package r files).1
    p.package r files = (left, 1, .error (.output "Operation not permitted (os error 1)")) ∧
      ∃ made, files.Extended made ∧ Scripted p r ["vm", "admin"] made left := by
  intro files p r left
  have failed : p.package r files =
      (left, 1, .error (.output "Operation not permitted (os error 1)")) :=
    Prod.ext rfl (by decide +kernel)
  obtain ⟨made, written, extended, scripted, -, -, ⟨-, none, -⟩ | ⟨reason, same, which⟩⟩ :=
    failed_package_leaves failed
  · contradiction
  obtain rfl : reason = .notPermitted := by
    have text : FileFault.message reason = FileFault.message .notPermitted :=
      (Fault.output.inj same).symm
    cases reason <;> revert text <;> decide
  rcases which with ⟨-, none, -⟩ | ⟨name, here, ⟨-, refused⟩ | ⟨rfl, -⟩⟩
  · contradiction
  · obtain rfl : "admin" = name := Option.some.inj here
    have written : (left.write (target r "admin") (.text (p.script "admin"))).toOption.isSome := by
      decide +kernel
    simp [refused, Except.toOption] at written
  · exact ⟨failed, made, extended, scripted⟩

/-- The directory of the second script is missing, and the first script has been written by then. -/
theorem script_left_behind :
    let files := FileTree.emptyAt ["work"]
    let r : PackageRequest := { names := ["admin", "sub/admin"] }
    let ended := Packager.package ⟨"/usr/bin/verbkit", "verbkit", none⟩ r files
    ended.2.2 = .error (.output "No such file or directory (os error 2)") ∧
      files.contains "admin" = false ∧
      ended.1.read "admin" =
        .ok "#!/bin/sh\n# admin: generated launcher\nexec \"/usr/bin/verbkit\" \"$@\"\n" := by
  decide +kernel

end CommandVerbs.Packager
