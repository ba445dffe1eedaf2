import CommandVerbs.Spec.Option

/-! The order of a listing. On options of distinct destinations it is strict and total, so a
listing does not depend on the order in which its options come. -/
namespace CommandVerbs.OptionSpec

/-- Stands before another option in every listing of the two. -/
def Before (o p : OptionSpec) : Prop :=
  Text.lower o.displayName < Text.lower p.displayName ∨
    Text.lower o.displayName = Text.lower p.displayName ∧ o.dest < p.dest

/-- No two options have the same destination. -/
def Distinct (options : List OptionSpec) : Prop := (options.map (·.dest)).Nodup

variable {o p q : OptionSpec} {xs ys : List OptionSpec}

theorem Before.asymm (first : Before o p) : ¬Before p o := by
  rintro (less | ⟨same, less⟩)
  · rcases first with earlier | ⟨same, _⟩
    · exact String.lt_asymm earlier less
    · exact String.lt_irrefl _ (same ▸ less)
  · rcases first with earlier | ⟨_, earlier⟩
    · exact String.lt_irrefl _ (same ▸ earlier)
    · exact String.lt_asymm earlier less

theorem precedes_iff :
    o.precedes p ↔ Text.lower o.displayName < Text.lower p.displayName ∨
      Text.lower o.displayName = Text.lower p.displayName ∧ o.dest ≤ p.dest := by
  simp only [precedes, Bool.or_eq_true, Bool.and_eq_true, Bool.not_eq_true', decide_eq_true_eq,
    decide_eq_false_iff_not, beq_iff_eq, String.not_lt]

theorem precedes_trans (first : o.precedes p) (second : p.precedes q) : o.precedes q := by
  rw [precedes_iff] at *
  rcases first with first | ⟨same, first⟩
  · rcases second with second | ⟨same', _⟩
    · exact .inl (String.lt_trans first second)
    · exact .inl (same' ▸ first)
  · rcases second with second | ⟨same', second⟩
    · exact .inl (same ▸ second)
    · exact .inr ⟨same.trans same', String.le_trans first second⟩

theorem precedes_total (o p : OptionSpec) : o.precedes p || p.precedes o := by
  rw [Bool.or_eq_true, precedes_iff, precedes_iff]
  rcases Std.lt_trichotomy (Text.lower o.displayName) (Text.lower p.displayName) with
    less | same | greater
  · exact .inl (.inl less)
  · rcases String.le_total o.dest p.dest with less | greater
    · exact .inl (.inr ⟨same, less⟩)
    · exact .inr (.inr ⟨same.symm, greater⟩)
  · exact .inr (.inl greater)

theorem before_of_precedes (precedes : o.precedes p) (distinct : o.dest ≠ p.dest) : Before o p := by
  rcases precedes_iff.mp precedes with less | ⟨same, less⟩
  · exact .inl less
  · refine .inr ⟨same, String.not_le.mp fun greater => ?_⟩
    exact distinct (String.le_antisymm less greater)

theorem precedes_of_before (before : Before o p) : o.precedes p := by
  rcases before with less | ⟨same, less⟩
  · exact precedes_iff.mpr (.inl less)
  · exact precedes_iff.mpr (.inr ⟨same, Std.le_of_lt less⟩)

theorem sorted_perm (options : List OptionSpec) : (sorted options).Perm options :=
  List.mergeSort_perm _ _

theorem Distinct.perm (distinct : Distinct xs) (perm : xs.Perm ys) : Distinct ys :=
  (perm.map _).nodup_iff.mp distinct

theorem Distinct.nodup (distinct : Distinct xs) : xs.Nodup :=
  (List.pairwise_map.mp distinct).imp fun different same => different (congrArg _ same)

theorem Distinct.increasing (distinct : Distinct xs) : (sorted xs).Pairwise Before := by
  have ordered : (sorted xs).Pairwise fun o p => o.precedes p :=
    @List.pairwise_mergeSort _ precedes (fun _ _ _ => precedes_trans) precedes_total xs
  have different : (sorted xs).Pairwise fun o p => o.dest ≠ p.dest :=
    List.pairwise_map.mp (distinct.perm (sorted_perm xs).symm)
  exact (ordered.and different).imp fun both => before_of_precedes both.1 both.2

/-- Increasing lists of the same options are the same. -/
theorem eq_of_increasing (first : xs.Pairwise Before) (second : ys.Pairwise Before)
    (perm : xs.Perm ys) : xs = ys :=
  perm.eq_of_pairwise (fun _ _ _ _ before after => absurd after before.asymm) first second

theorem sorted_eq_of_increasing (increasing : xs.Pairwise Before) : sorted xs = xs :=
  List.mergeSort_of_pairwise (increasing.imp precedes_of_before)

/-- Options of distinct destinations are listed in one way, whatever their order was. -/
theorem Distinct.sorted_eq (distinct : Distinct xs) (perm : xs.Perm ys) : sorted xs = sorted ys :=
  eq_of_increasing distinct.increasing (distinct.perm perm).increasing
    ((sorted_perm xs).trans (perm.trans (sorted_perm ys).symm))

theorem Distinct.find?_eq_some (distinct : Distinct xs) (dest : String) :
    xs.find? (·.dest == dest) = some o ↔ o ∈ xs ∧ o.dest = dest := by
  induction xs with
  | nil => simp
  | cons x rest ih =>
    obtain ⟨absent, distinct⟩ := List.nodup_cons.mp distinct
    rw [List.find?_cons, List.mem_cons]
    by_cases here : x.dest = dest
    · have elsewhere : ¬(o ∈ rest ∧ o.dest = dest) := fun ⟨member, same⟩ =>
        absent (List.mem_map.mpr ⟨o, member, same.trans here.symm⟩)
      grind
    · grind [ih distinct]

theorem Distinct.find?_perm (distinct : Distinct xs) (perm : xs.Perm ys) (dest : String) :
    xs.find? (·.dest == dest) = ys.find? (·.dest == dest) := by
  ext o
  rw [distinct.find?_eq_some, (distinct.perm perm).find?_eq_some, perm.mem_iff]

end CommandVerbs.OptionSpec
