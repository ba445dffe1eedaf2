import CommandVerbs.CommandLine.Matches
import CommandVerbs.Proofs.KeyMap

/-! What a verb sees of the values that its declaration supplies. Each goes to the argument at its
place; the values after the last argument are dropped, also if that argument takes several. -/
namespace CommandVerbs

variable {m : Matches} {a : ArgumentSpec} {arguments : List ArgumentSpec} {supplied : List String}
  {name value : String} {i : Nat}

namespace Matches

theorem get?_addArguments_other (values : Values) (other : ∀ a ∈ arguments, a.name ≠ name) :
    (m.addArguments arguments values).get? name = values.get? name := by
  induction arguments generalizing values with
  | nil => rfl
  | cons a rest ih =>
    obtain ⟨first, later⟩ := List.forall_mem_cons.mp other
    rw [addArguments, List.foldl_cons]
    refine (ih _ later).trans ?_
    split
    · rfl
    · exact KeyMap.get?_insert_other values _ first.symm

theorem get?_addSupplied_other (values : Values) (other : ∀ a ∈ arguments, a.name ≠ name) :
    (addSupplied arguments supplied values).get? name = values.get? name := by
  induction arguments generalizing supplied values with
  | nil => rfl
  | cons a rest ih =>
    obtain ⟨first, later⟩ := List.forall_mem_cons.mp other
    cases supplied with
    | nil => rfl
    | cons text texts =>
      exact (ih _ later).trans (KeyMap.get?_insert_other values _ first.symm)

theorem get?_addSupplied (values : Values) (place : arguments[i]? = some a)
    (given : supplied[i]? = some value) (last : ∀ b ∈ arguments.drop (i + 1), b.name ≠ a.name) :
    (addSupplied arguments supplied values).get? a.name = some (.text value) := by
  induction arguments generalizing supplied values i with
  | nil => simp at place
  | cons b rest ih =>
    cases supplied with
    | nil => simp at given
    | cons text texts =>
      cases i with
      | zero =>
        obtain rfl : b = a := by simpa using place
        obtain rfl : text = value := by simpa using given
        exact (get?_addSupplied_other _ last).trans (KeyMap.get?_insert_same values _ _)
      | succ i => exact ih _ (by simpa using place) (by simpa using given) last

theorem get?_addArguments {found : Value} (values : Values) (place : arguments[i]? = some a)
    (given : m.argumentOf? a = some found) (last : ∀ b ∈ arguments.drop (i + 1), b.name ≠ a.name) :
    (m.addArguments arguments values).get? a.name = some found := by
  induction arguments generalizing values i with
  | nil => simp at place
  | cons b rest ih =>
    cases i with
    | zero =>
      obtain rfl : b = a := by simpa using place
      rw [addArguments, List.foldl_cons, given]
      exact (get?_addArguments_other _ last).trans (KeyMap.get?_insert_same values _ _)
    | succ i => exact ih _ (by simpa using place) last

theorem addSupplied_take (arguments : List ArgumentSpec) (supplied : List String) (values : Values) :
    addSupplied arguments (supplied.take arguments.length) values =
      addSupplied arguments supplied values := by
  induction arguments generalizing supplied values with
  | nil => rfl
  | cons a rest ih =>
    cases supplied with
    | nil => rfl
    | cons text texts => exact ih texts _

end Matches

namespace Verb

variable {v : Verb} {seen : Invocation}

/-- The value is among those that the invocation has for the verb's arguments. -/
def Sees (v : Verb) (seen : Invocation) (value : String) : Prop :=
  ∃ a ∈ v.arguments, value ∈ seen.values.list a.name

/-- What a verb sees, once the values of its options are known. -/
def seeing (v : Verb) (m : Matches) (values : Values) : Invocation where
  verb := v.name
  values := m.addArguments (v.arguments.drop v.supplied.length)
    (Matches.addSupplied v.arguments v.supplied values)
  passed := if v.attributes.passthrough then m.passed else []

theorem reviewOptions_eq (v : Verb) :
    v.reviewOptions = { v with options := v.reviewOptions.options, optionsReview := .done } := by
  obtain ⟨_, _, _, review, _, _, _, _⟩ := v
  cases review <;> rfl

theorem invocation_eq_ok : (v.invocation m).2 = .ok seen ↔
    (∃ values, m.addOptions v.reviewOptions.options .empty = .ok values ∧ v.seeing m values = seen) ∧
      (v.argumentsReview = .due → firstMistake? v.name v.arguments = none) := by
  rw [invocation, reviewOptions_eq]
  cases m.addOptions v.reviewOptions.options .empty with
  | error fault => simp
  | ok values =>
    cases review : v.argumentsReview with
    | done => simp [readArguments, reviewArguments, seeing]
    | due =>
      cases wrong : firstMistake? v.name v.arguments with
      | some mistake => simp [readArguments, reviewArguments, wrong]
      | none => simp [readArguments, reviewArguments, wrong, seeing]

theorem seeing_leading (values : Values) (place : v.arguments[i]? = some a)
    (given : v.supplied[i]? = some value) (last : ∀ b ∈ v.arguments.drop (i + 1), b.name ≠ a.name) :
    (v.seeing m values).values.get? a.name = some (.text value) := by
  have inside : i < v.supplied.length := (List.getElem?_eq_some_iff.mp given).1
  have others : ∀ b ∈ v.arguments.drop v.supplied.length, b.name ≠ a.name := by
    intro b member
    refine last b (List.mem_of_mem_drop (i := v.supplied.length - (i + 1)) ?_)
    rwa [List.drop_drop, Nat.add_sub_cancel' inside]
  rw [seeing, Matches.get?_addArguments_other _ others]
  exact Matches.get?_addSupplied values place given last

theorem seeing_open {found : Value} (values : Values) (place : v.arguments[i]? = some a)
    (late : v.supplied.length ≤ i) (given : m.argumentOf? a = some found)
    (last : ∀ b ∈ v.arguments.drop (i + 1), b.name ≠ a.name) :
    (v.seeing m values).values.get? a.name = some found := by
  refine Matches.get?_addArguments (i := i - v.supplied.length) _ ?_ given fun b member => ?_
  · rwa [List.getElem?_drop, Nat.add_sub_cancel' late]
  · refine last b ?_
    rwa [List.drop_drop, ← Nat.add_assoc, Nat.add_sub_cancel' late] at member

theorem names_after_differ (distinct : (v.arguments.map (·.name)).Nodup)
    (place : v.arguments[i]? = some a) : ∀ b ∈ v.arguments.drop (i + 1), b.name ≠ a.name := by
  obtain ⟨inside, rfl⟩ := List.getElem?_eq_some_iff.mp place
  have split := List.drop_eq_getElem_cons inside
  have tail : ((v.arguments.drop i).map (·.name)).Nodup := by
    rw [List.map_drop]
    exact distinct.drop
  rw [split, List.map_cons, List.nodup_cons] at tail
  intro b member same
  exact tail.1 (List.mem_map.mpr ⟨b, member, same⟩)

/-- Supplied values past the last argument make no difference. -/
theorem invocation_take (read : (v.invocation m).2 = .ok seen) :
    (({ v with supplied := v.supplied.take v.arguments.length } : Verb).invocation m).2 = .ok seen := by
  obtain ⟨⟨values, found, rfl⟩, passed⟩ := invocation_eq_ok.mp read
  refine invocation_eq_ok.mpr ⟨⟨values, ?_, ?_⟩, passed⟩
  · rw [← found, reviewOptions, reviewOptions]
    cases v.optionsReview <;> rfl
  · have dropped : v.arguments.drop (v.supplied.take v.arguments.length).length =
        v.arguments.drop v.supplied.length := by
      rw [List.length_take]
      rcases Nat.le_total v.supplied.length v.arguments.length with fewer | more
      · rw [Nat.min_eq_right fewer]
      · rw [Nat.min_eq_left more, List.drop_length, List.drop_eq_nil_of_le more]
    simp only [seeing, Matches.addSupplied_take, dropped]

/-- A supplied value is what the verb sees under the name of the argument at its place, if no later
argument takes that name. So of distinct arguments each sees its own value; values past the last
argument make no difference, and once every argument has a value no other is seen. -/
theorem invocation_sees_supplied (read : (v.invocation m).2 = .ok seen) :
    (∀ i a value, v.arguments[i]? = some a → v.supplied[i]? = some value →
      (∀ b ∈ v.arguments.drop (i + 1), b.name ≠ a.name) →
      seen.values.get? a.name = some (.text value)) ∧
    ((v.arguments.map (·.name)).Nodup →
      (∀ value ∈ v.supplied.take v.arguments.length, v.Sees seen value) ∧
      (v.arguments.length ≤ v.supplied.length →
        ∀ value, v.Sees seen value → value ∈ v.supplied.take v.arguments.length)) ∧
    (({ v with supplied := v.supplied.take v.arguments.length } : Verb).invocation m).2 = .ok seen := by
  have unchanged := invocation_take read
  obtain ⟨⟨values, -, rfl⟩, -⟩ := invocation_eq_ok.mp read
  refine ⟨fun i a value => seeing_leading values, fun distinct => ⟨?_, ?_⟩, unchanged⟩
  · intro value member
    obtain ⟨i, place⟩ := List.getElem?_of_mem member
    have inside : i < v.arguments.length := by
      have := (List.getElem?_eq_some_iff.mp place).1
      rw [List.length_take] at this
      omega
    rw [List.getElem?_take_of_lt inside] at place
    have own := List.getElem?_eq_getElem inside
    have found := seeing_leading (m := m) values own place (names_after_differ distinct own)
    refine ⟨v.arguments[i], List.getElem_mem inside, ?_⟩
    rw [Values.list, found, List.mem_singleton]
  · rintro enough value ⟨a, member, listed⟩
    obtain ⟨i, place⟩ := List.getElem?_of_mem member
    have inside := (List.getElem?_eq_some_iff.mp place).1
    have given := List.getElem?_eq_getElem (Nat.lt_of_lt_of_le inside enough)
    have found := seeing_leading (m := m) values place given (names_after_differ distinct place)
    rw [Values.list, found, List.mem_singleton] at listed
    refine List.mem_of_getElem? (i := i) ?_
    rw [List.getElem?_take_of_lt inside, given, listed]

/-- A verb that takes one argument and then any number, with supplied values. -/
def copying (supplied : List String) : Verb where
  name := "copy"
  arguments := [{ name := "from", help := "" }, { name := "to", help := "", min := 0, max := none }]
  argumentsReview := .due
  supplied

theorem invocation_sees_supplied_copying :
    let v := copying ["a", "b", "c"]
    let seen := v.seeing {} .empty
    (v.invocation {}).2 = .ok seen ∧ seen.values.get? "to" = some (.text "b") ∧
      (∀ value, v.Sees seen value ↔ value ∈ ["a", "b"]) ∧
      ((copying ["a", "b"]).invocation {}).2 = .ok seen := by
  intro v seen
  have read : (v.invocation {}).2 = .ok seen := rfl
  obtain ⟨place, distinct, same⟩ := invocation_sees_supplied read
  obtain ⟨kept, only⟩ := distinct (by decide)
  refine ⟨read, ?_, fun value => ⟨only (by decide) value, kept value⟩, same⟩
  exact place 1 { name := "to", help := "", min := 0, max := none } "b" rfl rfl (by simp [v, copying])

/-- Of three values supplied for two arguments the last is dropped, though the second argument takes
any number. -/
theorem third_supplied_dropped :
    (copying ["a", "b", "c"]).readArguments.2 = .ok (copying []).arguments ∧
    ((copying ["a", "b", "c"]).invocation {}).2 =
      .ok { verb := "copy", values := .ofList [("from", .text "a"), ("to", .text "b")] } ∧
    ¬(copying ["a", "b", "c"]).Sees
      { verb := "copy", values := .ofList [("from", .text "a"), ("to", .text "b")] } "c" := by
  refine ⟨rfl, rfl, ?_⟩
  unfold Sees
  decide +kernel

end Verb

end CommandVerbs
