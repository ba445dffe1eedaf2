import CommandVerbs.Proofs.Files.Making
import CommandVerbs.Proofs.Package.Outcomes

/-! Where packaging writes. No name is held back: a script is written where its name leads to from the
output directory, or from the root. So it is below the output directory if the name does not go up out
of it, and otherwise only by coming down again through all that it has left. -/
namespace CommandVerbs

namespace FileTree

variable {t u : FileTree}

/-- One place is strictly inside another. -/
def Below (base place : Location) : Prop :=
  base <+: place ∧ base ≠ place

instance (base place : Location) : Decidable (Below base place) :=
  inferInstanceAs (Decidable (_ ∧ _))

theorem destination_of_same (same : u.workingDirectory = t.workingDirectory) (path : String) :
    u.destination path = t.destination path := by
  rw [destination, destination, same]

end FileTree

namespace Packager

open FileTree

variable {p : Packager} {r : PackageRequest} {files made left : FileTree} {base place : Location}
  {names : List String} {name : String}

/-- The output directory that a request asks for, or the working directory. -/
def outputPlace (r : PackageRequest) (files : FileTree) : Location :=
  (r.directory.map files.destination).getD files.workingDirectory

theorem destination_directory (r : PackageRequest) (files : FileTree) :
    files.destination (directory r) = outputPlace r files := by
  rw [directory, outputPlace]
  cases r.directory with
  | some path => rfl
  | none =>
    have dot : Path.isAbsolute "." = false ∧ Path.names "." = ["."] := by decide +kernel
    change files.destination "." = files.workingDirectory
    rw [FileTree.destination, dot.1, dot.2]
    rfl

/-- Whether a name leads to a directory or below it. A relative name has to come down again through all
that it leaves, an absolute one through the directory and all above. -/
def Inward (base : Location) (name : String) : Prop :=
  if Path.isAbsolute name then base <+: resolve [] (Path.names name)
  else base.drop (base.length - (course (Path.names name)).up) <+: (course (Path.names name)).down

instance (base : Location) (name : String) : Decidable (Inward base name) :=
  inferInstanceAs (Decidable (ite ..))

/-- A relative name that does not go up leaves no directory. -/
theorem inward_of_level (relative : Path.isAbsolute name = false) (level : ".." ∉ Path.names name) :
    Inward base name := by
  rw [Inward, relative, if_neg Bool.false_ne_true]
  exact (prefix_resolve_iff base _).mp (prefix_resolve level base)

theorem prefix_target_iff (files : FileTree) (r : PackageRequest) (name : String) :
    outputPlace r files <+: files.destination (target r name) ↔
      Inward (outputPlace r files) name := by
  rw [Inward, target, ← destination_directory]
  cases absolute : Path.isAbsolute name with
  | true => rw [destination_join_absolute absolute, if_pos rfl]
  | false => rw [destination_join absolute, prefix_resolve_iff, if_neg Bool.false_ne_true]

/-- The names whose scripts packaging has written: those of the scripts that it has finished, and the
next one if only its mode could not be set. -/
def Wrote (p : Packager) (r : PackageRequest) (files : FileTree) (written : List String) : Prop :=
  let ended := p.package r files
  written = (p.names r).take ended.2.1 ∨
    written = (p.names r).take (ended.2.1 + 1) ∧ files.fixedModes ≠ [] ∧
      ended.2.2 = .error (.output (FileFault.message .notPermitted))

/-- Some scripts have been written, and if there are any, the directory has been made before. -/
theorem package_scripted (p : Packager) (r : PackageRequest) (files : FileTree) :
    ∃ made written, files.Extended made ∧ Wrote p r files written ∧
      Scripted p r written made (p.package r files).1 ∧
      (written ≠ [] → files.makeDirectories (directory r) = (made, .ok ())) := by
  have ended := package_packaged p r files
  unfold Wrote
  generalize p.package r files = outcome at ended ⊢
  cases ended with
  | refused careful occupied => exact ⟨files, [], .refl files, .inl rfl, .nil p r files, absurd rfl⟩
  | @unmade made reason allowed making =>
    exact ⟨made, [], extended_of_making making, .inl rfl, .nil p r made, absurd rfl⟩
  | @stopped made left before after name reason allowed making asked stopped _ =>
    have earlier : (p.names r).take before.length = before := by simp [asked]
    have extended := extended_of_making making
    cases stopped with
    | unwritten scripted _ => exact ⟨made, before, extended, .inl earlier.symm, scripted, fun _ => making⟩
    | unmoded scripted _ fixed =>
      have all : (p.names r).take (before.length + 1) = before ++ [name] := by
        simp [List.take_add_one, asked]
      have same := sameFrame_of_making making
      exact ⟨made, _, extended, .inr ⟨all.symm, List.ne_nil_of_mem (same.2 ▸ fixed), rfl⟩, scripted,
        fun _ => making⟩
  | @done made left allowed making scripted _ =>
    exact ⟨made, p.names r, extended_of_making making, .inl List.take_length.symm, scripted,
      fun _ => making⟩

/-- The script of a name is where its target leads to, and so not in place of the directory. -/
theorem Scripted.destination (scripted : Scripted p r names made left)
    (making : files.makeDirectories (directory r) = (made, .ok ())) (member : name ∈ names) :
    left.locate (target r name) = .ok (files.destination (target r name)) ∧
      outputPlace r files ≠ files.destination (target r name) := by
  have same := workingDirectory_of_making making
  obtain ⟨place, located, file, -⟩ := scripted.reached name member
  have here : place = files.destination (target r name) :=
    (eq_destination_of_locate located).trans (destination_of_same same _)
  -- the output directory has been made by now, and a script takes the place of no directory
  refine ⟨here ▸ scripted.locate_iff.mpr located, fun taken => file ?_⟩
  rw [here, ← taken, ← destination_directory, ← destination_of_same same]
  exact directory_of_makeDirectories making

/-- Packaging changes nothing but to make directories and to write scripts where their names lead to. A
script is below the output directory just if its name does not lead out of it, as no relative name does
that is without double dots. -/
theorem package_places (p : Packager) (r : PackageRequest) (files : FileTree) :
    let ended := p.package r files
    let base := outputPlace r files
    ∃ written, Wrote p r files written ∧
    (∀ place, ended.1.node? place = files.node? place ∨
      files.node? place = none ∧ ended.1.node? place = some .directory ∨
      ∃ name ∈ written, files.destination (target r name) = place) ∧
    ∀ name ∈ written,
      ended.1.locate (target r name) = .ok (files.destination (target r name)) ∧
      (Below base (files.destination (target r name)) ↔ Inward base name) ∧
      (Path.isAbsolute name = false → ".." ∉ Path.names name →
        Below base (files.destination (target r name))) := by
  intro ended base
  obtain ⟨made, written, extended, wrote, scripted, making⟩ := package_scripted p r files
  have reached : ∀ name ∈ written, _ := fun name member =>
    scripted.destination (making (List.ne_nil_of_mem member)) member
  refine ⟨written, wrote, ?_, ?_⟩
  · intro place
    by_cases led : ∃ name ∈ written, files.destination (target r name) = place
    · exact .inr (.inr led)
    have apart : ∀ name ∈ written, ended.1.locate (target r name) ≠ .ok place := by
      intro name member leads
      obtain ⟨located, -⟩ := reached name member
      exact led ⟨name, member, Except.ok.inj (located.symm.trans leads)⟩
    rcases scripted.untouched extended apart with same | new
    · exact .inl same
    · exact .inr (.inl new)
  · intro name member
    obtain ⟨located, other⟩ := reached name member
    have below_iff : Below base (files.destination (target r name)) ↔ Inward base name :=
      (and_iff_left other).trans (prefix_target_iff files r name)
    exact ⟨located, below_iff, fun relative level => below_iff.mpr (inward_of_level relative level)⟩

/-- A name may leave the output directory and come back to it. -/
theorem package_places_returning :
    let files := FileTree.emptyAt ["work"]
    let r : PackageRequest := { directory := some "out", names := ["admin", "../out/vm"] }
    let left := (Packager.package ⟨"/usr/bin/verbkit", "verbkit", none⟩ r files).1
    left.locate (target r "../out/vm") = .ok ["work", "out", "vm"] ∧
      Below (outputPlace r files) ["work", "out", "admin"] ∧
      Below (outputPlace r files) ["work", "out", "vm"] := by
  intro files r left
  obtain ⟨written, wrote, -, placed⟩ :=
    package_places ⟨"/usr/bin/verbkit", "verbkit", none⟩ r files
  obtain rfl : written = ["admin", "../out/vm"] := by
    rcases wrote with rfl | ⟨-, fixed, -⟩
    · decide +kernel
    · contradiction
  obtain ⟨-, -, level⟩ := placed "admin" (by decide)
  obtain ⟨located, below_iff, -⟩ := placed "../out/vm" (by decide)
  have first : files.destination (target r "admin") = ["work", "out", "admin"] := by decide +kernel
  have second : files.destination (target r "../out/vm") = ["work", "out", "vm"] := by decide +kernel
  rw [first] at level
  rw [second] at located below_iff
  exact ⟨located, level (by decide +kernel) (by decide +kernel), below_iff.mpr (by decide +kernel)⟩

/-- A name that goes up out of the output directory leads to a place beside it. -/
theorem script_outside :
    let files := FileTree.emptyAt ["work"]
    let r : PackageRequest := { directory := some "out", names := ["../admin"] }
    let ended := Packager.package ⟨"/usr/bin/verbkit", "verbkit", none⟩ r files
    ended.2 = (1, .ok ["out/../admin"]) ∧
      ended.1.locate "out/../admin" = .ok ["work", "admin"] ∧
      ended.1.read "admin" =
        .ok "#!/bin/sh\n# ../admin: generated launcher\nexec \"/usr/bin/verbkit\" \"$@\"\n" ∧
      outputPlace r files = ["work", "out"] ∧ ¬Below ["work", "out"] ["work", "admin"] := by
  decide +kernel

end Packager

end CommandVerbs
