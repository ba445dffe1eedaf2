import CommandVerbs.Bundle.Base
import CommandVerbs.Bundle.Connection
import CommandVerbs.Bundle.Java
import CommandVerbs.Proofs.Verb.Checking
import CommandVerbs.Verb.Declaration

/-! How bundles complete a declared verb. They do it by operations on the verb, so a declared verb is
sound, and what bundles add to its arguments comes after those of the declaration. -/
namespace CommandVerbs

namespace Bundle

/-- The bundle keeps the verbs sound that it completes. -/
def KeepsSound (b : Bundle) : Prop :=
  b.hooks.complete → ∀ v, v.Sound → (b.complete v).1.Sound

/-- The bundle completes a verb by operations on it. -/
def Operates (b : Bundle) : Prop :=
  b.hooks.complete → ∀ v, ∃ ops, (b.complete v).1 = v.after ops

/-- The bundles of the library. -/
inductive Stock : Bundle → Prop
  | help : Stock .help
  | package : Stock .package
  | connection (o : ConnectionOptions) : Stock o.bundle
  | client (c : ClientConnection) : Stock c.bundle
  | java (j : JavaLaunch) : Stock j.bundle
  | server (s : ServerLaunch) : Stock s.bundle

theorem Stock.operates {b : Bundle} (stock : Stock b) : b.Operates := by
  intro _ v
  cases stock
  case help =>
    let verbs : ArgumentSpec := { name := "verb", help := "verb name", min := 0, max := none }
    exact ⟨[.change (.complete _), .change (.addOptions _), .change (.addArguments [verbs])], rfl⟩
  case package =>
    let names : ArgumentSpec := { name := "name", help := "[ NAME ... ]", min := 0, max := none }
    exact ⟨[.change (.complete _), .change (.addOptions _), .change (.addArguments [names])], rfl⟩
  case connection | client => exact ⟨[.change (.addOptions _)], rfl⟩
  case java =>
    exact ⟨[.change (.complete _), .change (.addOptions _), .change (.mergeLaunchOptions _)], rfl⟩
  case server =>
    exact ⟨[.change (.complete _), .change (.addOptions _), .change (.mergeLaunchOptions _),
      .change (.addOptions _), .change (.addArguments [ServerLaunch.catalogArgument])], rfl⟩

theorem Operates.keepsSound {b : Bundle} (operates : b.Operates) : b.KeepsSound := by
  intro taken v sound
  obtain ⟨ops, completed⟩ := operates taken v
  exact completed ▸ sound.after ops

theorem completeAll_cons {b : Bundle} (taken : b.hooks.complete) (rest : List Bundle) (v : Verb) :
    (completeAll v (b :: rest)).1 = (completeAll (b.complete v).1 rest).1 := by
  simp only [completeAll, if_pos taken]

theorem completeAll_cons_none {b : Bundle} (untaken : ¬b.hooks.complete) (rest : List Bundle)
    (v : Verb) : completeAll v (b :: rest) = completeAll v rest := by
  simp only [completeAll, if_neg untaken]

end Bundle

namespace Verb

variable {v : Verb} {bundles : List Bundle}

theorem Sound.ofDeclaration (name : String) (d : Declaration) : Sound (.ofDeclaration name d) := by
  let base : Verb :=
    { name, attributes := d.attributes, classpath := d.classpath, supplied := d.supplied }
  have bare : Sound base := ⟨List.nodup_nil, fun _ => .nil, fun _ => rfl⟩
  exact (bare.addOptions d.options).change (.addArguments d.arguments)

theorem Sound.completeAll (keep : ∀ b ∈ bundles, b.KeepsSound) (sound : Sound v) :
    Sound (Bundle.completeAll v bundles).1 := by
  induction bundles generalizing v with
  | nil => exact sound
  | cons b rest ih =>
    obtain ⟨here, keep⟩ := List.forall_mem_cons.mp keep
    by_cases taken : b.hooks.complete
    · exact Bundle.completeAll_cons taken rest v ▸ ih keep (here taken v sound)
    · exact Bundle.completeAll_cons_none taken rest v ▸ ih keep sound

/-- Bundles that operate on a verb add arguments after its own. -/
theorem Sound.completeAll_arguments (operate : ∀ b ∈ bundles, b.Operates) (sound : Sound v) :
    v.arguments <+: (Bundle.completeAll v bundles).1.arguments := by
  induction bundles generalizing v with
  | nil => exact List.prefix_rfl
  | cons b rest ih =>
    obtain ⟨here, operate⟩ := List.forall_mem_cons.mp operate
    by_cases taken : b.hooks.complete
    · obtain ⟨ops, completed⟩ := here taken v
      have later := ih operate (here.keepsSound taken v sound)
      rw [Bundle.completeAll_cons taken rest v]
      refine .trans ?_ later
      rw [completed, (sound.after_accumulates ops).2.1]
      exact List.prefix_append _ _
    · exact Bundle.completeAll_cons_none taken rest v ▸ ih operate sound

theorem addArguments_arguments (v : Verb) (arguments : List ArgumentSpec) :
    (v.addArguments arguments).arguments = v.arguments ++ arguments := by
  unfold addArguments
  split
  · rename_i none
    rw [List.isEmpty_iff.mp none, List.append_nil]
  · rfl

theorem ofDeclaration_arguments (name : String) (d : Declaration) :
    (Verb.ofDeclaration name d).arguments = d.arguments := by
  rw [ofDeclaration, addArguments_arguments, (addOptions_frame _ _).2.1, List.nil_append]

end Verb

end CommandVerbs
