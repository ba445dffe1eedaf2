import CommandVerbs.Spec.Attributes
import Mathlib.Data.List.Basic

/-! What becomes of attributes when several bundles complete a verb: a text is the first one offered,
a flag is raised by any of them, and launch options are collected in order without repetition. -/
namespace CommandVerbs.Attributes

/-- What whoever completes a verb has for its attributes. -/
inductive Offer where
  | defaults (d : Defaults)
  | launchOptions (options : List String)

namespace Offer

def toDefaults : Offer → Defaults
  | .defaults d => d
  | .launchOptions _ => {}

def options : Offer → List String
  | .defaults _ => []
  | .launchOptions options => options

end Offer

def accept (a : Attributes) : Offer → Attributes
  | .defaults d => a.complete d
  | .launchOptions options => a.mergeLaunchOptions options

def acceptAll (a : Attributes) : List Offer → Attributes
  | [] => a
  | offer :: rest => (a.accept offer).acceptAll rest

theorem complete_nothing (a : Attributes) : a.complete {} = a := by
  simp [complete]

theorem base_complete (a : Attributes) (d : Defaults) :
    (a.complete d).base = (a.base || d.base == some true) := by
  by_cases raised : d.base = some true <;> simp [complete, raised]

theorem hidden_complete (a : Attributes) (d : Defaults) :
    (a.complete d).hidden = (a.hidden || d.hidden == some true) := by
  by_cases raised : d.hidden = some true <;> simp [complete, raised]

theorem passthrough_complete (a : Attributes) (d : Defaults) :
    (a.complete d).passthrough = (a.passthrough || d.passthrough == some true) := by
  rcases given : d.passthrough with _ | _ | _ <;> simp [complete, given]

/-- Each kind of offer has nothing of the other kind. -/
theorem accept_eq (a : Attributes) (offer : Offer) :
    a.accept offer = (a.complete offer.toDefaults).mergeLaunchOptions offer.options := by
  cases offer with
  | defaults d => rfl
  | launchOptions options => rw [Offer.toDefaults, complete_nothing, accept, Offer.options]

/-! ## Texts and flags -/

theorem text_acceptAll (text : Attributes → Option String) (offered : Offer → Option String)
    (fills : ∀ a offer, text (accept a offer) = (text a).or (offered offer))
    (a : Attributes) (offers : List Offer) :
    text (a.acceptAll offers) = (text a).or (offers.findSome? offered) := by
  induction offers generalizing a with
  | nil => exact Option.or_none.symm
  | cons offer rest ih =>
    rw [acceptAll, ih, fills, Option.or_assoc, List.findSome?_cons]
    cases offered offer <;> rfl

theorem flag_acceptAll (flag : Attributes → Bool) (offered : Offer → Bool)
    (raises : ∀ a offer, flag (accept a offer) = (flag a || offered offer))
    (a : Attributes) (offers : List Offer) :
    flag (a.acceptAll offers) = (flag a || offers.any offered) := by
  induction offers generalizing a with
  | nil => exact (Bool.or_false _).symm
  | cons offer rest ih => rw [acceptAll, ih, raises, Bool.or_assoc, List.any_cons]

/-! ## Launch options -/

variable {a : Attributes} {o : String} {options : List String}

theorem merge_known (known : o ∈ a.launchOptions) (rest : List String) :
    a.mergeLaunchOptions (o :: rest) = a.mergeLaunchOptions rest := by
  simp [mergeLaunchOptions, known]

theorem merge_new (new : o ∉ a.launchOptions) (rest : List String) :
    a.mergeLaunchOptions (o :: rest) =
      { a with launchOptions := a.launchOptions ++ [o] }.mergeLaunchOptions rest := by
  simp [mergeLaunchOptions, new]

theorem merge_append (a : Attributes) (first second : List String) :
    (a.mergeLaunchOptions first).mergeLaunchOptions second =
      a.mergeLaunchOptions (first ++ second) := by
  simp only [mergeLaunchOptions, List.foldl_append]

theorem launchOptions_merge (a : Attributes) (options : List String) :
    (a.mergeLaunchOptions options).launchOptions =
      a.launchOptions ++ (options.filter (· ∉ a.launchOptions)).eraseDups := by
  induction options generalizing a with
  | nil => exact (List.append_nil _).symm
  | cons o rest ih =>
    by_cases known : o ∈ a.launchOptions
    · rw [merge_known known, ih, List.filter_cons_of_neg (by simpa using known)]
    · -- an option that is now there is filtered out of the rest, as it is by `eraseDups`
      have later : rest.filter (· ∉ a.launchOptions ++ [o]) =
          (rest.filter (· ∉ a.launchOptions)).filter (fun other => !other == o) := by
        rw [List.filter_filter]
        apply List.filter_congr
        intro other _
        by_cases same : other = o <;> simp [same]
      rw [merge_new known, ih, later, List.filter_cons_of_pos (by simpa using known),
        List.eraseDups_cons, List.append_assoc, List.singleton_append]

theorem mem_merge : o ∈ (a.mergeLaunchOptions options).launchOptions ↔
    o ∈ a.launchOptions ∨ o ∈ options := by
  rw [launchOptions_merge, List.mem_append, List.mem_eraseDups, List.mem_filter]
  by_cases known : o ∈ a.launchOptions <;> simp [known]

theorem nodup_merge (distinct : a.launchOptions.Nodup) (options : List String) :
    (a.mergeLaunchOptions options).launchOptions.Nodup := by
  induction options generalizing a with
  | nil => exact distinct
  | cons o rest ih =>
    by_cases known : o ∈ a.launchOptions
    · exact merge_known known rest ▸ ih distinct
    · rw [merge_new known]
      apply ih
      exact List.nodup_append.mpr ⟨distinct, by simp, by grind⟩

theorem merge_present (present : ∀ o ∈ options, o ∈ a.launchOptions) :
    a.mergeLaunchOptions options = a := by
  induction options with
  | nil => rfl
  | cons o rest ih =>
    obtain ⟨known, present⟩ := List.forall_mem_cons.mp present
    rw [merge_known known, ih present]

theorem launchOptions_acceptAll (a : Attributes) (offers : List Offer) :
    (a.acceptAll offers).launchOptions =
      (a.mergeLaunchOptions (offers.flatMap Offer.options)).launchOptions := by
  induction offers generalizing a with
  | nil => rfl
  | cons offer rest ih =>
    rw [acceptAll, ih, accept_eq, merge_append, List.flatMap_cons]
    rfl

/-- Texts are the first ones offered unless they were set before. Flags are raised by any offer to raise
them, so the order of the offers makes no difference to them. Launch options are the first occurrences of those
that are merged, after those that were there, and to merge them again changes nothing. -/
theorem acceptAll_collects (a : Attributes) (offers : List Offer) :
    let reached := a.acceptAll offers
    (reached.description = a.description.or (offers.findSome? (·.toDefaults.description)) ∧
      reached.epilogue = a.epilogue.or (offers.findSome? (·.toDefaults.epilogue)) ∧
      reached.usage = a.usage.or (offers.findSome? (·.toDefaults.usage))) ∧
    (reached.base = (a.base || offers.any (·.toDefaults.base == some true)) ∧
      reached.hidden = (a.hidden || offers.any (·.toDefaults.hidden == some true)) ∧
      reached.passthrough = (a.passthrough || offers.any (·.toDefaults.passthrough == some true))) ∧
    (∀ others : List Offer, others.Perm offers →
      (a.acceptAll others).base = reached.base ∧ (a.acceptAll others).hidden = reached.hidden ∧
        (a.acceptAll others).passthrough = reached.passthrough) ∧
    reached.launchOptions = a.launchOptions ++
      ((offers.flatMap Offer.options).filter (· ∉ a.launchOptions)).eraseDups ∧
    (a.launchOptions.Nodup → reached.launchOptions.Nodup) ∧
    ∀ offer ∈ offers, reached.mergeLaunchOptions offer.options = reached := by
  intro reached
  have base := flag_acceptAll base (·.toDefaults.base == some true)
    fun a offer => by rw [accept_eq, ← base_complete]; rfl
  have hidden := flag_acceptAll hidden (·.toDefaults.hidden == some true)
    fun a offer => by rw [accept_eq, ← hidden_complete]; rfl
  have passthrough := flag_acceptAll passthrough (·.toDefaults.passthrough == some true)
    fun a offer => by rw [accept_eq, ← passthrough_complete]; rfl
  have collected := launchOptions_acceptAll a offers
  refine ⟨⟨?_, ?_, ?_⟩, ⟨base a offers, hidden a offers, passthrough a offers⟩, ?_, ?_, ?_, ?_⟩
  · exact text_acceptAll description (·.toDefaults.description)
      (fun a offer => by rw [accept_eq]; rfl) a offers
  · exact text_acceptAll epilogue (·.toDefaults.epilogue)
      (fun a offer => by rw [accept_eq]; rfl) a offers
  · exact text_acceptAll usage (·.toDefaults.usage)
      (fun a offer => by rw [accept_eq]; rfl) a offers
  · intro others perm
    rw [base, hidden, passthrough, perm.any_eq, perm.any_eq, perm.any_eq, ← base, ← hidden,
      ← passthrough]
    exact ⟨rfl, rfl, rfl⟩
  · rw [collected, launchOptions_merge]
  · exact fun distinct => collected ▸ nodup_merge distinct _
  · intro offer member
    refine merge_present fun o merged => ?_
    rw [collected, mem_merge]
    exact .inr (List.mem_flatMap.mpr ⟨offer, member, merged⟩)

end CommandVerbs.Attributes
