import CommandVerbs.Proofs.Verb.Operations

/-! The options that a verb lists after any operations: of each destination the option that was
offered first, in listing order. -/
namespace CommandVerbs.Verb

open OptionSpec (Distinct Before)

/-- The options of an operation, whether the verb takes them or not. -/
def Operation.offered : Operation → List OptionSpec
  | .change (.addOptions options) => options
  | _ => []

/-- The options of all operations, in the order of time. -/
def offered (ops : List Operation) : List OptionSpec := ops.flatMap Operation.offered

variable {v w : Verb}

theorem findOption?_addOption (v : Verb) (o : OptionSpec) (dest : String) :
    (v.addOption o).findOption? dest = (v.findOption? dest).or ([o].find? (·.dest == dest)) := by
  by_cases known : o.dest ∈ v.options.map (·.dest)
  · rw [addOption_known known]
    by_cases here : o.dest = dest
    · obtain ⟨found, same⟩ := Option.isSome_iff_exists.mp (findOption?_isSome.mpr (here ▸ known))
      rw [same, Option.some_or]
    · simp [here]
  · rw [addOption_new known]
    exact List.find?_append

theorem findOption?_addOptions (v : Verb) (options : List OptionSpec) (dest : String) :
    (v.addOptions options).findOption? dest =
      (v.findOption? dest).or (options.find? (·.dest == dest)) := by
  induction options generalizing v with
  | nil => simp [addOptions]
  | cons o rest ih =>
    have later := ih (v.addOption o)
    rw [findOption?_addOption, Option.or_assoc, ← List.find?_append] at later
    exact later

theorem Sound.findOption?_perform (sound : Sound v) (op : Operation) (dest : String) :
    (v.perform op).1.findOption? dest =
      (v.findOption? dest).or (op.offered.find? (·.dest == dest)) := by
  cases op with
  | change c =>
    cases c with
    | addOptions options => exact findOption?_addOptions v options dest
    | addArguments arguments =>
      simp only [Verb.perform, Verb.change, addArguments]
      split <;> exact Option.or_none.symm
    | _ => exact Option.or_none.symm
  | read r =>
    obtain ⟨known, alike, _⟩ := sound.read r
    rw [show Operation.offered (.read r) = [] from rfl, List.find?_nil, Option.or_none]
    exact known.distinct.find?_perm alike.options dest

theorem Sound.findOption?_after (sound : Sound v) (ops : List Operation) (dest : String) :
    (v.after ops).findOption? dest =
      (v.findOption? dest).or ((offered ops).find? (·.dest == dest)) := by
  induction ops generalizing v with
  | nil => simp [Verb.after, offered]
  | cons op rest ih =>
    rw [Verb.after, ih (sound.perform op), sound.findOption?_perform, Option.or_assoc,
      ← List.find?_append]
    rfl

/-- An option is listed exactly if it was offered before any other of its destination. -/
theorem mem_options_after (name : String) (ops : List Operation) (o : OptionSpec) :
    o ∈ (after { name } ops).options ↔
      (offered ops).find? (·.dest == o.dest) = some o := by
  have distinct := ((Sound.initial name).after ops).distinct
  have found := (Sound.initial name).findOption?_after ops o.dest
  rw [show findOption? { name } o.dest = none from rfl, Option.none_or] at found
  rw [← found, findOption?, distinct.find?_eq_some]
  simp

/-- Of options with distinct destinations a verb takes every one. -/
theorem offered_distinct (distinct : Distinct (offered ops)) (name : String) :
    (after { name } ops).options.Perm (offered ops) := by
  have nodup := ((Sound.initial name).after ops).distinct.nodup
  refine (List.perm_ext_iff_of_nodup nodup distinct.nodup).mpr fun o => ?_
  rw [mem_options_after, distinct.find?_eq_some]
  simp

/-- After any operations a verb lists, of each destination, exactly the option that was offered
first, strictly in listing order, and finds and counts the same options. No answer depends on
the readings before it, and options of distinct destinations are listed the same way in
whatever order they were offered. -/
theorem lists_first_offered (name : String) (ops : List Operation) :
    ∃ listing, ((after { name } ops).read .options).2 = .options listing ∧
      (∀ o, o ∈ listing ↔ (offered ops).find? (·.dest == o.dest) = some o) ∧
      listing.Pairwise Before ∧
      (∀ dest, ((after { name } ops).read (.findOption dest)).2 =
        .option (listing.find? (·.dest == dest))) ∧
      ((after { name } ops).read .optionCount).2 = .count listing.length ∧
      (∀ others, others.filter Operation.changes = ops.filter Operation.changes →
        ∀ later, (after { name } others).answers later = (after { name } ops).answers later) ∧
      ∀ other others, Distinct (offered ops) → (offered others).Perm (offered ops) →
        ((after { name := other } others).read .options).2 = .options listing := by
  have sound := (Sound.initial name).after ops
  have perm := OptionSpec.sorted_perm (after { name } ops).options
  refine ⟨OptionSpec.sorted (after { name } ops).options, (sound.read .options).2.2, ?_,
    sound.distinct.increasing, ?_, ?_, ?_, ?_⟩
  · exact fun o => perm.mem_iff.trans (mem_options_after name ops o)
  · intro dest
    exact congrArg Answer.option (sound.distinct.find?_perm perm.symm dest)
  · exact congrArg Answer.count perm.length_eq.symm
  · -- Both verbs are alike the one that the changes alone lead to.
    intro others same later
    have initial := Sound.initial name
    have first := (Alike.refl { name }).after initial initial others
    have second := (Alike.refl { name }).after initial initial ops
    rw [same] at first
    exact (first.trans second.symm).answers (initial.after others) sound later
  · intro other others distinct offers
    have sound' := (Sound.initial other).after others
    have same := (offered_distinct (distinct.perm offers.symm) other).trans
      (offers.trans (offered_distinct distinct name).symm)
    rw [(sound'.read .options).2.2, answerTo, sound'.distinct.sorted_eq same]

end CommandVerbs.Verb
