import CommandVerbs.Proofs.Verb.Operations

/-! The class path of a verb after additions. An addition goes on from the class path that is there, so
additions amount to one addition of all their entries. An addition of nothing where there is no class
path is the exception: it leaves an empty entry. -/
namespace CommandVerbs.Verb

variable {v : Verb} {xs ys paths : List String} {ops : List Operation}

/-- The entries of an addition to the class path. -/
def Operation.addition? : Operation → Option (List String)
  | .change (.addToClasspath paths) => some paths
  | _ => none

/-- The additions among operations, in the order of time. -/
def additions (ops : List Operation) : List (List String) :=
  ops.filterMap Operation.addition?

/-- A class path with further entries; none if there is no entry at all. -/
def joined : Option String → List String → Option String
  | none, [] => none
  | classpath, paths => some (":".intercalate (classpath.toList ++ paths))

theorem join_joined (some : xs ≠ []) (ys : List String) :
    ":".intercalate (":".intercalate xs :: ys) = ":".intercalate (xs ++ ys) := by
  by_cases none : ys = []
  · simp [none]
  · rw [String.intercalate_cons_of_ne_nil none, String.intercalate_append_of_ne_nil some none]

theorem join_empty_entry (some : paths ≠ []) :
    ":".intercalate ("" :: paths) ≠ ":".intercalate paths := by
  intro same
  rw [String.intercalate_cons_of_ne_nil some] at same
  have lengths := congrArg String.length same
  simp at lengths

theorem classpath_addToClasspath (v : Verb) (paths : List String) :
    (v.addToClasspath paths).classpath = some (":".intercalate (v.classpath.toList ++ paths)) := rfl

theorem addToClasspath_append (there : v.classpath.toList ++ xs ≠ []) (ys : List String) :
    (v.addToClasspath xs).addToClasspath ys = v.addToClasspath (xs ++ ys) := by
  simp only [addToClasspath, Option.toList_some, List.singleton_append, join_joined there,
    List.append_assoc]

/-! ## Sequences of operations -/

theorem additions_cons (op : Operation) (rest : List Operation) :
    additions (op :: rest) = op.addition?.toList ++ additions rest := by
  rw [additions, List.filterMap_cons]
  cases op.addition? <;> rfl

theorem classpath_perform (v : Verb) (op : Operation) :
    (v.perform op).1.classpath =
      match op.addition? with
      | none => v.classpath
      | some paths => some (":".intercalate (v.classpath.toList ++ paths)) := by
  cases op with
  | read r => exact (v.read_alike r).classpath
  | change c =>
    cases c with
    | addOptions options =>
      rw [perform, change, addOptions_eq]
      rfl
    | addArguments arguments =>
      simp only [perform, change, addArguments]
      split <;> rfl
    | _ => rfl

theorem classpath_after_some {there : String} (known : v.classpath = some there)
    (ops : List Operation) :
    (v.after ops).classpath = some (":".intercalate (there :: (additions ops).flatten)) := by
  induction ops generalizing v there with
  | nil => simp [after, additions, known]
  | cons op rest ih =>
    have performed := classpath_perform v op
    rw [known] at performed
    rw [additions_cons, after]
    cases added : op.addition? with
    | none =>
      rw [added] at performed
      exact ih performed
    | some paths =>
      rw [added] at performed
      rw [ih performed, Option.toList_some, Option.toList_some, List.singleton_append,
        List.singleton_append, join_joined (List.cons_ne_nil _ _), List.flatten_cons,
        List.cons_append]

/-- Where there was no class path, the first addition says what it begins with. -/
theorem classpath_after_none (absent : v.classpath = none) (ops : List Operation) :
    (v.after ops).classpath =
      match additions ops with
      | [] => none
      | first :: later => some (":".intercalate (":".intercalate first :: later.flatten)) := by
  induction ops generalizing v with
  | nil => exact absent
  | cons op rest ih =>
    have performed := classpath_perform v op
    rw [absent] at performed
    rw [additions_cons, after]
    cases added : op.addition? with
    | none =>
      rw [added] at performed
      exact ih performed
    | some paths =>
      rw [added] at performed
      exact classpath_after_some performed rest

/-! ## Where additions come together -/

theorem addToClasspath_nil_iff (v : Verb) : v.addToClasspath [] = v ↔ v.classpath.isSome := by
  constructor
  · intro same
    rw [← same]
    rfl
  · intro there
    obtain ⟨classpath, known⟩ := Option.isSome_iff_exists.mp there
    rw [addToClasspath, known, Option.toList_some, List.append_nil, String.intercalate_singleton,
      ← known]

theorem addToClasspath_append_iff (v : Verb) (xs ys : List String) :
    (v.addToClasspath xs).addToClasspath ys = v.addToClasspath (xs ++ ys) ↔
      v.classpath.isSome ∨ xs ≠ [] ∨ ys = [] := by
  by_cases nothing : v.classpath.toList ++ xs = []
  · obtain ⟨absent, rfl⟩ := List.append_eq_nil_iff.mp nothing
    rw [Option.toList_eq_nil_iff] at absent
    constructor
    · intro same
      -- two additions have left an empty entry that one does not leave
      have paths := congrArg classpath same
      simp only [classpath_addToClasspath, absent] at paths
      exact .inr (.inr (Decidable.by_contra fun some => join_empty_entry some (Option.some.inj paths)))
    · simp only [absent, Option.isSome_none, Bool.false_eq_true, ne_eq, not_true_eq_false, false_or]
      rintro rfl
      rfl
  · refine iff_of_true (addToClasspath_append nothing ys) ?_
    by_cases none : xs = []
    · left
      simpa [none, Option.isSome_iff_ne_none] using nothing
    · exact .inr (.inl none)

theorem classpath_after_iff (v : Verb) (ops : List Operation) :
    (v.after ops).classpath = joined v.classpath (additions ops).flatten ↔
      v.classpath.isSome ∨ (additions ops).head? ≠ some [] := by
  cases known : v.classpath with
  | some there => simp [classpath_after_some known, joined]
  | none =>
    rw [classpath_after_none known]
    rcases additions ops with - | ⟨first, later⟩
    · simp [joined]
    · rcases first with - | ⟨path, paths⟩
      · cases all : later.flatten <;> simp [joined, all]
      · simp [joined, join_joined]

/-- Two additions amount to one, and the class path after any operations is what was there with all
added entries, except where the first addition to no class path adds nothing: then it begins with an
empty entry. -/
theorem additions_join (v : Verb) :
    (∀ xs ys, (v.addToClasspath xs).addToClasspath ys = v.addToClasspath (xs ++ ys) ↔
      v.classpath.isSome ∨ xs ≠ [] ∨ ys = []) ∧
    (v.addToClasspath [] = v ↔ v.classpath.isSome) ∧
    (∀ ops, (v.after ops).classpath = joined v.classpath (additions ops).flatten ↔
      v.classpath.isSome ∨ (additions ops).head? ≠ some []) ∧
    ∀ ops, v.classpath = none → (additions ops).head? = some [] →
      (v.after ops).classpath = some (":".intercalate ("" :: (additions ops).flatten)) := by
  refine ⟨v.addToClasspath_append_iff, v.addToClasspath_nil_iff, v.classpath_after_iff, ?_⟩
  intro ops absent nothing
  obtain ⟨later, split⟩ := List.head?_eq_some_iff.mp nothing
  rw [classpath_after_none absent, split]
  rfl

/-- An addition of nothing leaves an empty entry before the next. -/
theorem empty_addition_leaves_entry :
    let run : Verb := { name := "run" }
    run.addToClasspath [] ≠ run ∧
      ((run.addToClasspath []).addToClasspath ["a.jar"]).classpath = some ":a.jar" ∧
      (run.addToClasspath ["a.jar"]).classpath = some "a.jar" := by
  refine ⟨?_, rfl, rfl⟩
  decide

end CommandVerbs.Verb
