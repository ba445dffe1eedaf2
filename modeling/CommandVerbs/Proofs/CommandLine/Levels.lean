import Mathlib.Data.List.Nodup
import CommandVerbs.Proofs.CommandLine.Raising

/-! Both levels of a command line. Words before the name of a verb are read by the program, those after
it by the verb, and what is raised at either level holds for the whole line. -/
namespace CommandVerbs

variable {g : Grammar} {v : VerbGrammar} {r r' : Reading} {m : Matches} {name word id : String}
  {words : List String}

/-! ## Grammars of registered verbs -/

namespace VerbGrammar

theorem ofChecked_takesRest {v : Verb} {arguments : List ArgumentSpec} {i : Nat} {p : Positional}
    (place : (ofChecked v arguments).positionals[i]? = some p) (takes : p.takesRest) :
    p = .passedOn ∧ i + 1 = (ofChecked v arguments).positionals.length := by
  simp only [ofChecked] at place ⊢
  rw [List.getElem?_append, List.length_map] at place
  split at place
  · -- an argument of the declaration takes no rest
    rw [List.getElem?_map] at place
    obtain ⟨a, -, rfl⟩ := Option.map_eq_some_iff.mp place
    contradiction
  · split at place
    · rename_i late passes
      obtain ⟨bound, same⟩ := List.getElem?_eq_some_iff.mp place
      rw [List.length_singleton] at bound
      refine ⟨by simp [← same], ?_⟩
      simp only [passes, if_true, List.length_append, List.length_map, List.length_singleton]
      omega
    · simp at place

/-- The grammar is made from a verb and arguments. -/
def Made (v : VerbGrammar) : Prop :=
  ∃ w arguments, v = ofChecked w arguments

theorem Made.restLast (made : v.Made) : v.level.RestLast := by
  obtain ⟨w, arguments, rfl⟩ := made
  intro i p place takes
  obtain ⟨rfl, last⟩ := ofChecked_takesRest place takes
  exact ⟨last, rfl⟩

theorem Made.eq_passedOn (made : v.Made) {p : Positional} (member : p ∈ v.positionals)
    (takes : p.takesRest) : p = .passedOn := by
  obtain ⟨w, arguments, rfl⟩ := made
  obtain ⟨i, place⟩ := List.getElem?_of_mem member
  exact (ofChecked_takesRest place takes).1

end VerbGrammar

theorem Registry.mem_visited {α : Type} {look : Verb → Verb × Except DeclarationFault α}
    {verbs : KeyMap Entry} {names : List String} {values : List α} {value : α}
    (visited : (visit look verbs names).2 = .ok values) (member : value ∈ values) :
    ∃ v, (look v).2 = .ok value := by
  induction names generalizing verbs values with
  | nil =>
    obtain rfl := Except.ok.inj visited
    contradiction
  | cons name rest ih =>
    unfold visit at visited
    split at visited
    · exact ih visited member
    · rename_i e found
      split at visited
      · contradiction
      · rename_i w first looked
        cases others : (visit look (verbs.insert name (e.withVerb w)) rest).2 with
        | error fault => simp [others, Except.map] at visited
        | ok later =>
          simp only [others, Except.map, Except.ok.injEq] at visited
          rcases List.mem_cons.mp (visited ▸ member) with rfl | inside
          · exact ⟨e.verb, by rw [looked]⟩
          · exact ih others inside

namespace Grammar

theorem made_of_ofRegistry {program : Program} {configured : Option String} {registry : Registry}
    (built : (ofRegistry program configured registry).2 = .ok g) (member : v ∈ g.verbs) : v.Made := by
  cases visited : (Registry.visit VerbGrammar.ofVerb registry.verbs registry.order).2 with
  | error fault => simp [ofRegistry, visited, Except.map] at built
  | ok grammars =>
    simp only [ofRegistry, visited, Except.map, Except.ok.injEq] at built
    obtain ⟨w, made⟩ := Registry.mem_visited visited (by rwa [← built] at member)
    cases opened : w.reviewOptions.readOpenArguments.2 with
    | error fault => simp [VerbGrammar.ofVerb, opened, Except.map] at made
    | ok arguments =>
      simp only [VerbGrammar.ofVerb, opened, Except.map, Except.ok.injEq] at made
      exact ⟨_, arguments, made.symm⟩

/-! ## Words before the name of a verb -/

theorem root_restLast : g.root.RestLast := by simp [Level.RestLast, root]

/-- No verb is named after a separator. -/
theorem readRoot_trailing {verb : Option (String × Matches)} (trailing : r.trailing = true)
    (read : g.readRoot words r = .ok (r', verb)) : verb = none := by
  cases words with
  | nil => exact (Prod.mk.inj (Except.ok.inj read)).2.symm
  | cons word rest =>
    have refused : g.root.readWord word rest r = .error (.refused (g.root.unexpected true word)) := by
      simp [Level.readWord, trailing, Level.readPositional, root]
    simp [readRoot, trailing, refused] at read

theorem readRoot_spelled (collects : r.Collects) (free : r.trailing = false)
    (read : g.readRoot words r = .ok (r', some (name, m))) :
    ∃ v before heard after, g.verb? name = some v ∧ words = before ++ name :: after ∧
      g.root.Spelled r.waiting?.isSome before heard ∧ v.level.matched g.configured after = .ok m ∧
      g.root.Raises r (heard.flatMap g.root.raisedBy) r' := by
  induction words generalizing r with
  | nil => simp [readRoot] at read
  | cons word rest ih =>
    unfold readRoot at read
    split at read
    · rename_i v named
      obtain ⟨inner, words, read⟩ := bind_eq_ok.mp read
      obtain ⟨matched, finished, same⟩ := bind_eq_ok.mp read
      obtain ⟨rfl, here⟩ := Prod.mk.inj (Except.ok.inj same)
      obtain ⟨rfl, rfl⟩ := Prod.mk.inj (Option.some.inj here)
      split at named
      · contradiction
      · rename_i unwaiting
        have settled : r.waiting?.isSome = false := by simpa [free] using unwaiting
        obtain ⟨-, rfl⟩ := verb?_eq_some named
        refine ⟨v, [], [], rest, named, rfl, ?_, bind_eq_ok.mpr ⟨inner, words, finished⟩,
          .refl collects⟩
        rw [settled]
        exact .nil
    · rename_i unnamed
      split at read
      · contradiction
      · rename_i next here
        have other (settled : r.waiting? = none) : word ∉ g.root.verbs := by
          rw [← verb?_eq_none]
          simpa [free, settled] using unnamed
        cases Level.readWord_step root_restLast collects free here with
        | goes spells =>
          obtain ⟨v, before, heard, after, found, rfl, spelled, matched, later⟩ :=
            ih spells.collects (spells.trailing.trans free) read
          refine ⟨v, word :: before, _ ++ heard, after, found, rfl, spells.spelled other spelled,
            matched, ?_⟩
          rw [List.flatMap_append]
          exact spells.toRaises.trans later
        | separator _ same =>
          subst same
          cases readRoot_trailing rfl read
        | passed _ gives => exact absurd gives.mem List.not_mem_nil

/-- A command line with a verb is read in two parts, and what either raises is raised. -/
theorem read_spelled {line : CommandLine} (accepted : g.read words = .ok line)
    (invoked : line.verb = some (name, m)) :
    ∃ v before heard after inner, g.verb? name = some v ∧ words = before ++ name :: after ∧
      g.root.Spelled false before heard ∧ v.level.matched g.configured after = .ok inner ∧
      m.texts = inner.texts ∧
      (line.verbose ↔ Switch.verbose.id ∈ heard.flatMap g.root.raisedBy ∨
        Switch.verbose.id ∈ inner.raised) := by
  obtain ⟨⟨r, verb⟩, read, ending⟩ := bind_eq_ok.mp accepted
  obtain ⟨outer, finished, combined⟩ := bind_eq_ok.mp ending
  obtain rfl := Except.ok.inj combined
  obtain ⟨⟨named, inner⟩, rfl, verb⟩ := Option.map_eq_some_iff.mp invoked
  obtain ⟨rfl, rfl⟩ := Prod.mk.inj verb
  obtain ⟨v, before, heard, after, found, split, spelled, matched, raises⟩ :=
    readRoot_spelled (by simp [Reading.Collects]) rfl read
  refine ⟨v, before, heard, after, inner, found, split, spelled, matched, by split <;> rfl, ?_⟩
  obtain ⟨-, outer, -⟩ := Level.finish_ok raises.collects finished
  have raised := raises.raised Switch.verbose.id
  simp [combine, outer, raised]

/-! ## Keeping to the syntax -/

theorem apart_of_keepsPassed (made : v.Made) (keeps : v.KeepsPassed) :
    v.level.Apart Positional.passedOn.id where
  switches s member := (keeps.1 s member).symm
  positionals p member := by
    constructor
    · intro named
      rw [keeps.2 p member named]
      rfl
    · intro takes
      rw [made.eq_passedOn member takes]

theorem read_layout {line : CommandLine} (built : g.Built) (accepted : g.read words = .ok line)
    (invoked : line.verb = some (name, m)) (keeps : ∀ v ∈ g.verb? name, v.KeepsPassed) :
    ∃ layout : g.Layout words name m, line.verbose ↔
      Switch.verbose.id ∈ layout.outer.flatMap g.root.raisedBy ∨
        Switch.verbose.id ∈ layout.inner.flatMap layout.verb.level.raisedBy := by
  obtain ⟨v, before, outer, later, inner, found, rfl, leads, matched, texts, verbose⟩ :=
    read_spelled accepted invoked
  obtain ⟨program, configured, registry, built⟩ := built
  have made := made_of_ofRegistry built (verb?_eq_some found).1
  obtain ⟨after, heard, rest, rfl, follows, trails, raised⟩ :=
    Level.matched_spelled made.restLast (apart_of_keepsPassed made (keeps v found)) rfl matched
  rw [← texts] at trails
  rw [raised] at verbose
  exact ⟨⟨v, before, outer, after, heard, rest, found, rfl, leads, follows, trails⟩, verbose⟩

/-- What follows a name at the start is read by the verb. -/
theorem read_named {line : CommandLine} (found : g.verb? name = some v)
    (accepted : g.read (name :: words) = .ok line) (invoked : line.verb = some (name, m)) :
    ∃ inner, v.level.matched g.configured words = .ok inner ∧ m.texts = inner.texts := by
  obtain ⟨w, before, outer, later, inner, named, split, leads, matched, texts, -⟩ :=
    read_spelled accepted invoked
  obtain rfl : w = v := Option.some.inj (named.symm.trans found)
  obtain rfl := Level.Spelled.nil.before_eq (mem_verbs found) leads split
  obtain rfl : words = later := by simpa using split
  exact ⟨inner, matched, texts⟩

theorem read_of_matched (found : g.verb? name = some v) (named : g.configured ≠ some "")
    (matched : v.level.matched g.configured words = .ok m) :
    ∃ line, g.read (name :: words) = .ok line ∧ line.verb = some (name, m) := by
  obtain ⟨r, read, finished⟩ := bind_eq_ok.mp matched
  obtain ⟨-, rfl⟩ := verb?_eq_some found
  have start : g.readRoot (v.name :: words) {} = .ok ({}, some (v.name, m)) := by
    have free : (Reading.waiting? {}).isSome = false := rfl
    simp only [readRoot, free, Bool.or_self, Bool.false_eq_true, if_false, found, read, finished, bind,
      Except.bind]
    rfl
  have root : g.root.finish g.configured {} = .ok {} := by
    simp [Level.finish, Reading.settle, named, Grammar.root, bind, Except.bind, pure, Except.pure]
  refine ⟨g.combine {} (some (v.name, m)), ?_, by simp [combine]⟩
  simp only [Grammar.read, start, root, bind, Except.bind]
  rfl

theorem begins_take (distinct : (v.positionals.map (·.id)).Nodup) {n : Nat}
    (single : ∀ p ∈ v.positionals.take n, p.Single) : v.level.Begins (v.positionals.take n) where
  firsts_prefix := List.take_prefix n v.positionals
  single := single
  distinct := distinct.sublist ((List.take_sublist n v.positionals).map _)

theorem takesOne_of_single (distinct : (v.positionals.map (·.id)).Nodup) {p : Positional}
    (member : p ∈ v.positionals) (single : p.Single) : v.level.TakesOneFor p.id := by
  intro q listed repeats same
  rw [List.inj_on_of_nodup_map distinct listed member same, single.repeats] at repeats
  contradiction

/-- Reading word by word keeps to the syntax. -/
theorem read_documented : Parser.Documented read where
  laid built accepted invoked keeps := by
    obtain ⟨layout, -⟩ := read_layout built accepted invoked keeps
    exact ⟨layout⟩
  raised {g words line name m} built accepted invoked layout keeps := by
    have only : ∀ v ∈ g.verb? name, v.KeepsPassed := fun v found =>
      Option.some.inj (layout.found.symm.trans found) ▸ keeps
    obtain ⟨other, verbose⟩ := read_layout built accepted invoked only
    rwa [other.eq layout] at verbose
  fills {g v name word words rest line m i p} found distinct plain accepted invoked place given
      single := by
    obtain ⟨inner, matched, texts⟩ := read_named found accepted invoked
    have begins := begins_take distinct single
    have bound := (List.getElem?_eq_some_iff.mp place).1
    -- words after that one are for later arguments
    rw [← List.take_append_drop (i + 1) words, List.append_assoc] at matched
    rw [texts]
    refine begins.matched_texts (fun word member => plain word (List.mem_of_mem_take member)) ?_
      (i := i) ?_ ?_ ?_ matched
    · rw [List.length_take, List.length_take]
      omega
    · rwa [List.getElem?_take_of_lt (Nat.lt_succ_self i)]
    · rwa [List.getElem?_take_of_lt (Nat.lt_succ_self i)]
    · have first : p ∈ v.positionals.take (i + 1) := by
        refine List.mem_of_getElem? (i := i) ?_
        rwa [List.getElem?_take_of_lt (Nat.lt_succ_self i)]
      exact takesOne_of_single distinct (List.mem_of_getElem? place) (single p first)
  accepts {g v name words} found distinct plain short single enough named := by
    have begins := begins_take distinct single
    have fits : words.length = (v.positionals.take words.length).length := by
      rw [List.length_take]
      omega
    obtain ⟨line, accepted, invoked⟩ :=
      read_of_matched found named (begins.matched_ok plain fits enough named)
    exact ⟨line, _, accepted, invoked⟩

end Grammar

end CommandVerbs
