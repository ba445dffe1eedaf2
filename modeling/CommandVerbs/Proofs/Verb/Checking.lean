import CommandVerbs.Proofs.Verb.Operations

/-! Which arguments a verb accepts, and what it refuses others with: the first argument that
breaks a rule, and the first rule that it breaks. That depends on the arguments alone, not on when
they were added or read. -/
namespace CommandVerbs.Verb

/-- The rules for arguments, in the order in which they are checked. -/
inductive Rule where
  | negative | inverted | zero | nonTerminal
  deriving DecidableEq, Repr

namespace Rule

/-- Whether an argument breaks the rule. Only the last argument of a verb may take other than
exactly one value. -/
def Broken (last : Bool) (a : ArgumentSpec) : Rule → Prop
  | negative => a.min < 0 ∨ ∃ max, a.max = some max ∧ max < 0
  | inverted => ∃ max, a.max = some max ∧ max < a.min
  | zero => a.min = 0 ∧ a.max = some 0
  | nonTerminal => last = false ∧ ¬(a.min = 1 ∧ a.max = some 1)

/-- The rules that are checked before. -/
def earlier : Rule → List Rule
  | negative => []
  | inverted => [negative]
  | zero => [negative, inverted]
  | nonTerminal => [negative, inverted, zero]

def fault (verb : String) (a : ArgumentSpec) : Rule → DeclarationFault
  | negative => .negativeCount verb a.name
  | inverted => .invertedCounts verb a.name
  | zero => .zeroCounts verb a.name
  | nonTerminal => .nonTerminalCounts verb a.name

end Rule

/-- The arguments that a verb may have. -/
structure Acceptable (list : List ArgumentSpec) : Prop where
  nonNegative : ∀ a ∈ list, 0 ≤ a.min ∧ ∀ max, a.max = some max → 0 ≤ max
  ordered : ∀ a ∈ list, ∀ max, a.max = some max → a.min ≤ max
  nonZero : ∀ a ∈ list, ¬(a.min = 0 ∧ a.max = some 0)
  single : ∀ a ∈ list.dropLast, a.min = 1 ∧ a.max = some 1

/-- No argument before `a` breaks a rule, and `rule` is the first that `a` breaks. -/
def FirstOffence (list : List ArgumentSpec) (a : ArgumentSpec) (rule : Rule) : Prop :=
  ∃ before later, list = before ++ a :: later ∧
    (∀ b ∈ before, ∀ r, ¬Rule.Broken false b r) ∧
    rule.Broken later.isEmpty a ∧ ∀ r ∈ rule.earlier, ¬r.Broken later.isEmpty a

variable {a : ArgumentSpec} {list : List ArgumentSpec} {verb : String} {last : Bool}

/-- Checking an argument finds nothing wrong with it, or the first rule that it breaks. -/
theorem mistake?_cases (verb : String) (last : Bool) (a : ArgumentSpec) :
    (mistake? verb last a = none ∧ ∀ rule, ¬Rule.Broken last a rule) ∨
      ∃ rule : Rule, mistake? verb last a = some (rule.fault verb a) ∧ rule.Broken last a ∧
        ∀ r ∈ rule.earlier, ¬r.Broken last a := by
  have negative : (a.min < 0 ∨ a.max.any (· < 0)) ↔ Rule.negative.Broken last a := by
    simp [Rule.Broken, Option.any_eq_true]
  have inverted : a.max.any (· < a.min) ↔ Rule.inverted.Broken last a := by
    simp [Rule.Broken, Option.any_eq_true]
  have zero : (a.min = 0 ∧ a.max = some 0) ↔ Rule.zero.Broken last a := Iff.rfl
  have nonTerminal : (!last && !a.single) ↔ Rule.nonTerminal.Broken last a := by
    grind [Rule.Broken, ArgumentSpec.single]
  unfold mistake?
  by_cases first : Rule.negative.Broken last a
  · rw [if_pos (negative.mpr first)]
    exact .inr ⟨.negative, rfl, first, by simp [Rule.earlier]⟩
  rw [if_neg (mt negative.mp first)]
  by_cases second : Rule.inverted.Broken last a
  · rw [if_pos (inverted.mpr second)]
    exact .inr ⟨.inverted, rfl, second, by simp [Rule.earlier, first]⟩
  rw [if_neg (mt inverted.mp second)]
  by_cases third : Rule.zero.Broken last a
  · rw [if_pos (zero.mpr third)]
    exact .inr ⟨.zero, rfl, third, by simp [Rule.earlier, first, second]⟩
  rw [if_neg (mt zero.mp third)]
  by_cases fourth : Rule.nonTerminal.Broken last a
  · rw [if_pos (nonTerminal.mpr fourth)]
    exact .inr ⟨.nonTerminal, rfl, fourth, by simp [Rule.earlier, first, second, third]⟩
  · rw [if_neg (mt nonTerminal.mp fourth)]
    exact .inl ⟨rfl, fun rule => by cases rule <;> assumption⟩

theorem acceptable_nil : Acceptable [] := ⟨by simp, by simp, by simp, by simp⟩

theorem acceptable_cons :
    Acceptable (a :: list) ↔ (∀ rule, ¬Rule.Broken list.isEmpty a rule) ∧ Acceptable list := by
  have singles : (∀ b ∈ (a :: list).dropLast, b.min = 1 ∧ b.max = some 1) ↔
      (list.isEmpty = false → a.min = 1 ∧ a.max = some 1) ∧
        ∀ b ∈ list.dropLast, b.min = 1 ∧ b.max = some 1 := by
    cases list <;> simp
  constructor
  · rintro ⟨nonNegative, ordered, nonZero, single⟩
    rw [List.forall_mem_cons] at nonNegative ordered nonZero
    rw [singles] at single
    refine ⟨fun rule => ?_, nonNegative.2, ordered.2, nonZero.2, single.2⟩
    cases rule with
    | negative =>
      rintro (below | ⟨max, same, below⟩)
      · exact Int.not_lt.mpr nonNegative.1.1 below
      · exact Int.not_lt.mpr (nonNegative.1.2 max same) below
    | inverted => exact fun ⟨max, same, below⟩ => Int.not_lt.mpr (ordered.1 max same) below
    | zero => exact nonZero.1
    | nonTerminal => exact fun ⟨inner, other⟩ => other (single.1 inner)
  · rintro ⟨obeyed, nonNegative, ordered, nonZero, single⟩
    have first := obeyed .negative
    have second := obeyed .inverted
    simp only [Rule.Broken, not_or, not_exists, not_and, Int.not_lt] at first second
    refine ⟨List.forall_mem_cons.mpr ⟨first, nonNegative⟩,
      List.forall_mem_cons.mpr ⟨second, ordered⟩,
      List.forall_mem_cons.mpr ⟨obeyed .zero, nonZero⟩, singles.mpr ⟨fun inner => ?_, single⟩⟩
    exact Decidable.not_not.mp fun other => obeyed .nonTerminal ⟨inner, other⟩

/-- Checking a list finds nothing wrong with it, or its first offence. -/
theorem firstMistake?_cases (verb : String) (list : List ArgumentSpec) :
    (firstMistake? verb list = none ∧ Acceptable list) ∨
      ∃ a rule, firstMistake? verb list = some (rule.fault verb a) ∧ FirstOffence list a rule := by
  induction list with
  | nil => exact .inl ⟨rfl, acceptable_nil⟩
  | cons a rest ih =>
    rw [firstMistake?]
    rcases mistake?_cases verb rest.isEmpty a with ⟨clean, obeyed⟩ | ⟨rule, found, broken, first⟩
    · rw [clean, Option.none_or]
      rcases ih with ⟨passed, acceptable⟩ | ⟨b, rule, found, before, later, split, kept, offence⟩
      · exact .inl ⟨passed, acceptable_cons.mpr ⟨obeyed, acceptable⟩⟩
      · -- With an offence after it, the argument is not the last.
        have inner : rest.isEmpty = false := by simp [split]
        rw [inner] at obeyed
        exact .inr ⟨b, rule, found, a :: before, later, congrArg (a :: ·) split,
          List.forall_mem_cons.mpr ⟨obeyed, kept⟩, offence⟩
    · rw [found, Option.some_or]
      exact .inr ⟨a, rule, rfl, [], rest, rfl, by simp, broken, first⟩

theorem FirstOffence.not_acceptable {rule : Rule} (offence : FirstOffence list a rule) :
    ¬Acceptable list := by
  obtain ⟨before, later, rfl, kept, broken, _⟩ := offence
  clear kept
  intro acceptable
  induction before with
  | nil => exact (acceptable_cons.mp acceptable).1 rule broken
  | cons b rest ih => exact ih (acceptable_cons.mp acceptable).2

/-! ## Operations -/

/-- The arguments of an operation. -/
def Operation.given : Operation → List ArgumentSpec
  | .change (.addArguments arguments) => arguments
  | _ => []

/-- The values that an operation supplies. -/
def Operation.values : Operation → List String
  | .change (.supply values) => values
  | _ => []

/-- The arguments of all operations, in the order of time. -/
def given (ops : List Operation) : List ArgumentSpec := ops.flatMap Operation.given

/-- The values that all operations supply, in the order of time. -/
def suppliedBy (ops : List Operation) : List String := ops.flatMap Operation.values

variable {v : Verb}

theorem addOptions_frame (v : Verb) (options : List OptionSpec) :
    (v.addOptions options).name = v.name ∧ (v.addOptions options).arguments = v.arguments ∧
      (v.addOptions options).supplied = v.supplied := by
  rw [addOptions_eq]
  exact ⟨rfl, rfl, rfl⟩

/-- Only additions count for the arguments and the supplied values. -/
theorem Sound.perform_accumulates (sound : Sound v) (op : Operation) :
    (v.perform op).1.name = v.name ∧ (v.perform op).1.arguments = v.arguments ++ op.given ∧
      (v.perform op).1.supplied = v.supplied ++ op.values := by
  cases op with
  | change c =>
    cases c with
    | addOptions options =>
      simpa [Verb.perform, Verb.change, Operation.given, Operation.values]
        using addOptions_frame v options
    | addArguments arguments =>
      simp only [Verb.perform, Verb.change, addArguments]
      split
      · rename_i empty
        simp [Operation.given, Operation.values, List.isEmpty_iff.mp empty]
      · simp [Operation.given, Operation.values]
    | _ =>
      simp [Verb.perform, Verb.change, supply, addToClasspath, complete, mergeLaunchOptions,
        Operation.given, Operation.values]
  | read r =>
    obtain ⟨_, alike, _⟩ := sound.read r
    simpa [Operation.given, Operation.values] using ⟨alike.name, alike.arguments, alike.supplied⟩

theorem Sound.after_accumulates (sound : Sound v) (ops : List Operation) :
    (v.after ops).name = v.name ∧ (v.after ops).arguments = v.arguments ++ given ops ∧
      (v.after ops).supplied = v.supplied ++ suppliedBy ops := by
  induction ops generalizing v with
  | nil => simp [Verb.after, given, suppliedBy]
  | cons op rest ih =>
    obtain ⟨name, arguments, supplied⟩ := sound.perform_accumulates op
    obtain ⟨name', arguments', supplied'⟩ := ih (sound.perform op)
    refine ⟨name'.trans name, ?_, ?_⟩
    · rw [Verb.after, arguments', arguments, List.append_assoc]
      rfl
    · rw [Verb.after, supplied', supplied, List.append_assoc]
      rfl

/-- The readings that check the arguments. -/
def Reading.checks : Reading → Bool
  | .arguments | .openArguments | .validation => true
  | _ => false

/-- A reading that refuses the arguments leaves their check due. -/
theorem read_refused {mistake : DeclarationFault} (due : v.argumentsReview = .due)
    (wrong : firstMistake? v.name v.arguments = some mistake) (r : Reading) (checks : r.checks) :
    (v.read r).1.argumentsReview = .due := by
  have options : v.reviewOptions.argumentsReview = .due ∧
      v.reviewOptions.name = v.name ∧ v.reviewOptions.arguments = v.arguments := by
    unfold reviewOptions
    split <;> exact ⟨due, rfl, rfl⟩
  have refused : v.reviewArguments = .error mistake := by simp only [reviewArguments, due, wrong]
  have refused' : v.reviewOptions.reviewArguments = .error mistake := by
    simp only [reviewArguments, options, wrong]
  cases r with
  | arguments => simpa only [Verb.read, readArguments, refused] using due
  | openArguments => simpa only [Verb.read, readOpenArguments, readArguments, refused] using due
  | validation => simpa only [Verb.read, validate, refused'] using options.1
  | _ => cases checks

/-- After any operations, a verb has the arguments that were added, in their order. If they are
acceptable, every reading that checks them succeeds and lists them. Otherwise every such reading
refuses them with the first rule that the first offender breaks, and the arguments stay as they are,
to be checked again. -/
theorem checks_arguments_exactly (name : String) (ops : List Operation) :
    (after { name } ops).arguments = given ops ∧
    (Acceptable (given ops) →
      ((after { name } ops).read .validation).2 = .verdict (.ok ()) ∧
      ((after { name } ops).read .arguments).2 = .arguments (.ok (given ops)) ∧
      ((after { name } ops).read .openArguments).2 =
        .arguments (.ok ((given ops).drop (suppliedBy ops).length))) ∧
    (¬Acceptable (given ops) →
      ∃ a rule, FirstOffence (given ops) a rule ∧
        ((after { name } ops).read .validation).2 = .verdict (.error (rule.fault name a)) ∧
        ((after { name } ops).read .arguments).2 = .arguments (.error (rule.fault name a)) ∧
        ((after { name } ops).read .openArguments).2 = .arguments (.error (rule.fault name a)) ∧
        (after { name } ops).argumentsReview = .due ∧
        ∀ r : Reading, r.checks → ((after { name } ops).read r).1.arguments = given ops ∧
          ((after { name } ops).read r).1.argumentsReview = .due) := by
  have sound := (Sound.initial name).after ops
  obtain ⟨named, arguments, supplied⟩ := (Sound.initial name).after_accumulates ops
  rw [List.nil_append] at arguments supplied
  refine ⟨arguments, ?_, ?_⟩
  · intro acceptable
    have passed : firstMistake? name (given ops) = none := by
      rcases firstMistake?_cases name (given ops) with ⟨passed, _⟩ | ⟨a, rule, _, offence⟩
      · exact passed
      · exact absurd acceptable offence.not_acceptable
    have ruling : (after { name } ops).ruling = .ok (given ops) := by
      simp only [Verb.ruling, named, arguments, passed]
    simp only [(sound.read _).2.2, answerTo, ruling, supplied]
    exact ⟨rfl, trivial, rfl⟩
  · intro refused
    rcases firstMistake?_cases name (given ops) with ⟨_, acceptable⟩ | ⟨a, rule, wrong, offence⟩
    · exact absurd acceptable refused
    have ruling : (after { name } ops).ruling = .error (rule.fault name a) := by
      simp only [Verb.ruling, named, arguments, wrong]
    have wrong' : firstMistake? (after { name } ops).name (after { name } ops).arguments =
        some (rule.fault name a) := by rw [named, arguments, wrong]
    have due : (after { name } ops).argumentsReview = .due := by
      cases review : (after { name } ops).argumentsReview with
      | due => rfl
      | done =>
        have passed := sound.checked review
        rw [wrong'] at passed
        contradiction
    refine ⟨a, rule, offence, ?_, ?_, ?_, due, fun r checks => ?_⟩
    · simp only [(sound.read _).2.2, answerTo, ruling]
      rfl
    · simp only [(sound.read _).2.2, answerTo, ruling]
    · simp only [(sound.read _).2.2, answerTo, ruling]
      rfl
    · exact ⟨(sound.read r).2.1.arguments.trans arguments, read_refused due wrong' r checks⟩

end CommandVerbs.Verb
