import Mathlib.Data.List.Forall2
import CommandVerbs.CommandLine.Reading
import CommandVerbs.Proofs.CommandLine.Building

/-! How many values arguments take. For the arguments that a verb may have, the command line accepts
as many values as were declared, and values can be dealt to the arguments in one way at most. -/
namespace CommandVerbs

/-- Whether the argument was declared to take a number of values. -/
def ArgumentSpec.Takes (a : ArgumentSpec) (n : Nat) : Prop :=
  a.min ≤ n ∧ ∀ max, a.max = some max → n ≤ max

/-- Whether the reading of a command line accepts a number of values. An argument that is not given
has no values to be counted. -/
def Positional.Accepts (p : Positional) (n : Nat) : Prop :=
  if n = 0 then p.required = false else Reading.checkCount p.id p.min p.max n = .ok ()

/-- Deals all values to the arguments in order, to each of them as many as it takes. -/
structure Dealt (arguments : List ArgumentSpec) (values : List String) (parts : List (List String)) :
    Prop where
  all : parts.flatten = values
  each : arguments.Forall₂ (fun a part => a.Takes part.length) parts

/-- The least number of values that arguments take together. -/
def fewest : List ArgumentSpec → Int
  | [] => 0
  | a :: rest => a.min + fewest rest

/-- The greatest number of values that arguments take together, if there is one. -/
def most : List ArgumentSpec → Option Int
  | [] => some 0
  | a :: rest => a.max.bind fun max => (most rest).map (max + ·)

variable {a b : ArgumentSpec} {arguments rest : List ArgumentSpec} {values : List String}
  {parts parts' : List (List String)}

/-! ## The range of an argument -/

theorem Reading.checkCount_eq_ok {id : String} {min : Nat} {max : Option Nat} {n : Nat} :
    Reading.checkCount id min max n = .ok () ↔ n ≠ 0 ∧ min ≤ n ∧ ∀ top, max = some top → n ≤ top := by
  unfold Reading.checkCount
  cases max with
  | none => grind
  | some top => grind

theorem Positional.accepts_iff {p : Positional} (positive : 1 ≤ p.min) {n : Nat} :
    p.Accepts n ↔ n = 0 ∧ p.required = false ∨ p.min ≤ n ∧ ∀ top, p.max = some top → n ≤ top := by
  unfold Positional.Accepts
  split
  · grind
  · rw [Reading.checkCount_eq_ok]
    grind

theorem le_ofArgument_max (high : ∀ max, a.max = some max → 0 ≤ max) (n : Nat) :
    (∀ top, (Positional.ofArgument a).max = some top → n ≤ top) ↔
      ∀ top, a.max = some top → n ≤ top ∨ n ≤ 1 := by
  cases limit : a.max with
  | none => simp [Positional.ofArgument, limit]
  | some top =>
    have high := high top limit
    have bounds : n ≤ Nat.max top.toNat 1 ↔ n ≤ top ∨ n ≤ 1 := by
      change n ≤ max top.toNat 1 ↔ _
      omega
    simp only [Positional.ofArgument, limit, Option.map_some, Option.some.injEq, forall_eq', bounds]

/-- Values of an argument are accepted in the numbers that it was declared to take. -/
theorem Verb.Acceptable.accepts_iff_takes (acceptable : Verb.Acceptable arguments)
    (member : a ∈ arguments) (n : Nat) :
    (Positional.ofArgument a).Accepts n ↔ a.Takes n := by
  obtain ⟨low, high⟩ := acceptable.nonNegative a member
  have ordered := acceptable.ordered a member
  have nonZero := acceptable.nonZero a member
  have positive : 1 ≤ (Positional.ofArgument a).min := Nat.le_max_right _ _
  have required : (Positional.ofArgument a).required = false ↔ a.min = 0 := by
    simp only [Positional.ofArgument, ArgumentSpec.required, decide_eq_false_iff_not]
    omega
  have least : (Positional.ofArgument a).min ≤ n ↔ 1 ≤ n ∧ a.min ≤ n := by
    simp only [Positional.ofArgument, Nat.max_le]
    omega
  rw [Positional.accepts_iff positive, required, least, le_ofArgument_max high,
    ArgumentSpec.Takes]
  -- a limit is at least 1, so raising it to 1 changes nothing
  cases limit : a.max with
  | none =>
    simp only [reduceCtorEq, false_imp_iff, implies_true, and_true]
    omega
  | some top =>
    have ordered := ordered top limit
    simp only [limit, Option.some.injEq, forall_eq'] at nonZero ⊢
    omega

theorem Verb.Acceptable.range_ordered (acceptable : Verb.Acceptable arguments)
    (member : a ∈ arguments) {top : Nat} (limit : (Positional.ofArgument a).max = some top) :
    (Positional.ofArgument a).min ≤ top := by
  obtain ⟨declared, present, rfl⟩ := Option.map_eq_some_iff.mp limit
  have ordered := acceptable.ordered a member declared present
  change max a.min.toNat 1 ≤ max declared.toNat 1
  omega

/-! ## Dealing values to arguments -/

theorem dealt_nil : Dealt [] values parts ↔ values = [] ∧ parts = [] := by
  constructor
  · rintro ⟨rfl, each⟩
    obtain rfl := List.forall₂_nil_left_iff.mp each
    exact ⟨rfl, rfl⟩
  · rintro ⟨rfl, rfl⟩
    exact ⟨rfl, .nil⟩

theorem dealt_last : Dealt [a] values parts ↔ parts = [values] ∧ a.Takes values.length := by
  constructor
  · rintro ⟨rfl, each⟩
    obtain ⟨part, none, takes, ends, rfl⟩ := List.forall₂_cons_left_iff.mp each
    obtain rfl := List.forall₂_nil_left_iff.mp ends
    simpa using takes
  · rintro ⟨rfl, takes⟩
    exact ⟨by simp, .cons takes .nil⟩

/-- An argument that takes exactly one value gets the first one. -/
theorem dealt_single (one : a.min = 1 ∧ a.max = some 1) :
    Dealt (a :: rest) values parts ↔ ∃ value values' parts',
      values = value :: values' ∧ parts = [value] :: parts' ∧ Dealt rest values' parts' := by
  have takes (n : Nat) : a.Takes n ↔ n = 1 := by
    simp only [ArgumentSpec.Takes, one, Option.some.injEq, forall_eq']
    omega
  constructor
  · rintro ⟨rfl, each⟩
    obtain ⟨part, parts', own, later, rfl⟩ := List.forall₂_cons_left_iff.mp each
    obtain ⟨value, rfl⟩ := List.length_eq_one_iff.mp ((takes _).mp own)
    exact ⟨value, parts'.flatten, parts', rfl, rfl, rfl, later⟩
  · rintro ⟨value, values', parts', rfl, rfl, all, each⟩
    exact ⟨congrArg (value :: ·) all, .cons ((takes _).mpr rfl) each⟩

theorem Verb.Acceptable.tail (acceptable : Verb.Acceptable (a :: rest)) : Verb.Acceptable rest :=
  (Verb.acceptable_cons.mp acceptable).2

theorem Verb.Acceptable.head_single (acceptable : Verb.Acceptable (a :: b :: rest)) :
    a.min = 1 ∧ a.max = some 1 :=
  acceptable.single a (by simp)

theorem Verb.Acceptable.dealt_unique (acceptable : Verb.Acceptable arguments)
    (dealt : Dealt arguments values parts) (dealt' : Dealt arguments values parts') :
    parts = parts' := by
  induction arguments generalizing values parts parts' with
  | nil => rw [(dealt_nil.mp dealt).2, (dealt_nil.mp dealt').2]
  | cons a rest ih =>
    cases rest with
    | nil => rw [(dealt_last.mp dealt).1, (dealt_last.mp dealt').1]
    | cons b rest =>
      have single := acceptable.head_single
      obtain ⟨value, values, later, rfl, rfl, others⟩ := (dealt_single single).mp dealt
      obtain ⟨_, _, later', same, rfl, others'⟩ := (dealt_single single).mp dealt'
      obtain ⟨rfl, rfl⟩ := List.cons.inj same
      rw [ih acceptable.tail others others']

theorem Verb.Acceptable.fewest_nonneg (acceptable : Verb.Acceptable arguments) :
    0 ≤ fewest arguments := by
  induction arguments with
  | nil => exact Int.le_refl 0
  | cons a rest ih =>
    exact Int.add_nonneg (acceptable.nonNegative a List.mem_cons_self).1 (ih acceptable.tail)

/-- The arguments have a greatest number of values unless the last one has none. -/
theorem Verb.Acceptable.most_eq_none (acceptable : Verb.Acceptable arguments) :
    most arguments = none ↔ ∃ a, arguments.getLast? = some a ∧ a.max = none := by
  induction arguments with
  | nil => simp [most]
  | cons a rest ih =>
    cases rest with
    | nil => simp [most]
    | cons b rest =>
      rw [List.getLast?_cons_cons, ← ih acceptable.tail, most, acceptable.head_single.2]
      simp

theorem Verb.Acceptable.exists_dealt_iff (acceptable : Verb.Acceptable arguments) :
    (∃ parts, Dealt arguments values parts) ↔
      fewest arguments ≤ values.length ∧ ∀ total, most arguments = some total → values.length ≤ total := by
  induction arguments generalizing values with
  | nil =>
    simp only [dealt_nil, fewest, most, Option.some.injEq, forall_eq',
      exists_and_left, exists_eq, and_true]
    rw [← List.length_eq_zero_iff]
    omega
  | cons a rest ih =>
    cases rest with
    | nil =>
      simp [dealt_last, fewest, most, ArgumentSpec.Takes]
    | cons b rest =>
      have single := acceptable.head_single
      have least : fewest (a :: b :: rest) = 1 + fewest (b :: rest) := by
        rw [fewest, single.1]
      have greatest : most (a :: b :: rest) = (most (b :: rest)).map (1 + ·) := by
        rw [most, single.2, Option.bind_some]
      rw [least, greatest]
      cases values with
      | nil =>
        have := acceptable.tail.fewest_nonneg
        simp only [dealt_single single, List.length_nil]
        constructor
        · rintro ⟨_, _, _, _, impossible, _⟩
          contradiction
        · rintro ⟨few, -⟩
          omega
      | cons value values =>
        have later : (∃ parts, Dealt (b :: rest) values parts) ↔ _ := ih acceptable.tail
        have first : (∃ parts, Dealt (a :: b :: rest) (value :: values) parts) ↔
            ∃ parts, Dealt (b :: rest) values parts := by
          simp only [dealt_single single]
          constructor
          · rintro ⟨_, _, _, parts, same, rfl, dealt⟩
            obtain ⟨rfl, rfl⟩ := List.cons.inj same
            exact ⟨parts, dealt⟩
          · rintro ⟨parts, dealt⟩
            exact ⟨_, value, values, parts, rfl, rfl, dealt⟩
        rw [first, later, List.length_cons]
        cases most (b :: rest) <;> simp <;> omega

namespace Verb

/-- What validation accepts has the same counts on the command line: each argument has a range, which
begins with at least one value, and it accepts no values if it is not required. Values can be dealt
to the arguments in one way at most, and are dealt if they are neither too few nor too many; none are
too many if the last argument has no limit. -/
theorem validated_counts {v : Verb} (sound : v.Sound) (accepted : v.validate.2 = .ok ()) :
    (∀ a ∈ v.arguments,
      let p := Positional.ofArgument a
      1 ≤ p.min ∧ (∀ max, p.max = some max → p.min ≤ max) ∧
      (∀ n, p.Accepts n ↔
        n = 0 ∧ p.required = false ∨ p.min ≤ n ∧ ∀ max, p.max = some max → n ≤ max) ∧
      ∀ n, p.Accepts n ↔ a.Takes n) ∧
    (most v.arguments = none ↔ ∃ a, v.arguments.getLast? = some a ∧ a.max = none) ∧
    ∀ values,
      (∀ parts parts', Dealt v.arguments values parts → Dealt v.arguments values parts' →
        parts = parts') ∧
      ((∃ parts, Dealt v.arguments values parts) ↔ fewest v.arguments ≤ values.length ∧
        ∀ total, most v.arguments = some total → values.length ≤ total) := by
  have acceptable : Acceptable v.arguments := by
    rw [← firstMistake?_eq_none, ← sound.refusal?_validate, accepted, refusal?_ok]
  refine ⟨fun a member => ?_, acceptable.most_eq_none, fun values => ⟨?_, ?_⟩⟩
  · have positive : 1 ≤ (Positional.ofArgument a).min := Nat.le_max_right _ _
    exact ⟨positive, fun max => acceptable.range_ordered member,
      fun n => Positional.accepts_iff positive, acceptable.accepts_iff_takes member⟩
  · exact fun _ _ => acceptable.dealt_unique
  · exact acceptable.exists_dealt_iff

/-- A verb whose last argument may be left out. -/
def moving : Verb where
  name := "move"
  arguments := [{ name := "from", help := "" }, { name := "to", help := "", min := 0, max := some 2 }]
  argumentsReview := .due

theorem validated_counts_moving :
    moving.Sound ∧ moving.validate.2 = .ok () ∧
    (∀ parts, Dealt moving.arguments ["a", "b"] parts ↔ parts = [["a"], ["b"]]) ∧
    ¬∃ parts, Dealt moving.arguments ["a", "b", "c", "d"] parts := by
  have sound : moving.Sound :=
    (Sound.initial "move").change (.addArguments moving.arguments)
  have accepted : moving.validate.2 = .ok () := rfl
  obtain ⟨-, -, deals⟩ := validated_counts sound accepted
  have dealt : Dealt moving.arguments ["a", "b"] [["a"], ["b"]] :=
    ⟨rfl, .cons (by simp [ArgumentSpec.Takes]) (.cons (by simp [ArgumentSpec.Takes]) .nil)⟩
  refine ⟨sound, accepted, fun parts => ⟨fun other => (deals _).1 _ _ other dealt, ?_⟩, ?_⟩
  · rintro rfl
    exact dealt
  · rw [(deals _).2]
    exact fun ⟨_, few⟩ => absurd (few 3 rfl) (by decide)

end Verb

end CommandVerbs
