import CommandVerbs.CommandLine.Parser
import CommandVerbs.CommandLine.WordForm

/-! What is documented about the syntax of command lines, whichever parser reads them. A word with dashes
in front is a switch, or several short ones; the word after a switch that takes a value is its value; the
other words are positional arguments, in order. From a separator on, and from the first word that is passed
on, all words are values. So a command line is laid out in one way only. -/
namespace CommandVerbs

variable {l : Level} {word name : String} {flags : List Char} {words before after rest heard : List String}
  {awaiting : Bool}

namespace WordForm

theorem toList_of_short (form : WordForm.of word = .short flags) : word.toList = '-' :: flags := by
  unfold WordForm.of at form
  split at form
  · contradiction
  · split at form <;> contradiction
  · contradiction
  · rename_i chars
    rw [chars, short.inj form]
  · contradiction

theorem ne_nil_of_short (form : WordForm.of word = .short flags) : flags ≠ [] := by
  rintro rfl
  have dash := toList_of_short form
  rw [WordForm.of, dash] at form
  contradiction

theorem of_eq_separator : WordForm.of word = .separator ↔ word = "--" := by
  constructor
  · intro form
    unfold WordForm.of at form
    split at form
    · rename_i chars
      exact String.toList_inj.mp chars
    · split at form <;> contradiction
    all_goals contradiction
  · rintro rfl
    rfl

end WordForm

namespace Level

/-! ## Words with dashes -/

/-- The names of the switches that short flags raise, up to one that takes the rest as its value. -/
def raisedShort (l : Level) : List Char → List String
  | [] => []
  | flag :: rest =>
    match l.byShort? flag with
    | none => []
    | some s => if s.takesValue then [] else s.id :: l.raisedShort rest

/-- The names of the switches that a word raises if it is read as switches. -/
def raisedBy (l : Level) (word : String) : List String :=
  match WordForm.of word with
  | .long flag none => (((l.byLong? flag).filter (!·.takesValue)).map (·.id)).toList
  | .short flags => l.raisedShort flags
  | .long _ (some _) | .separator | .plain => []

/-- Whether the last of some short flags takes a value. -/
def awaitsShort (l : Level) : List Char → Bool
  | [] => false
  | flag :: rest =>
    match l.byShort? flag with
    | none => false
    | some s => if s.takesValue then rest.isEmpty else l.awaitsShort rest

/-- Whether the value of a switch in the word is the word after it. -/
def awaits (l : Level) (word : String) : Bool :=
  match WordForm.of word with
  | .long flag none => (l.byLong? flag).any (·.takesValue)
  | .short flags => l.awaitsShort flags
  | .long _ (some _) | .separator | .plain => false

/-- Whether a word has the form of switches, all of which the level has. -/
def knows (l : Level) (word : String) : Bool :=
  match WordForm.of word with
  | .long flag _ => (l.byLong? flag).isSome
  | .short flags => flags.all fun flag => (l.byShort? flag).isSome
  | .separator | .plain => false

/-- The words of a level before any separator, and those of them that are switches. The first word may
be awaited as the value of a switch. -/
inductive Spelled (l : Level) : Bool → List String → List String → Prop
  | nil : Spelled l false [] []
  | switches {word : String} {words heard : List String} :
    word ∉ l.verbs → (WordForm.of word).isFlag → Spelled l (l.awaits word) words heard →
    Spelled l false (word :: words) (word :: heard)
  | awaited {word : String} {words heard : List String} :
    WordForm.of word ≠ .separator → l.knows word = false → Spelled l false words heard →
    Spelled l true (word :: words) heard
  | value {word : String} {words heard : List String} :
    l.positionals ≠ [] → word ∉ l.verbs → WordForm.of word = .plain → Spelled l false words heard →
    Spelled l false (word :: words) heard

namespace Spelled

theorem sublist (spelled : l.Spelled awaiting words heard) : heard.Sublist words := by
  induction spelled with
  | nil => exact .slnil
  | switches _ _ _ ih => exact ih.cons_cons _
  | awaited _ _ _ ih => exact ih.cons _
  | value _ _ _ _ ih => exact ih.cons _

theorem unseparated (spelled : l.Spelled awaiting words heard) :
    ∀ word ∈ words, WordForm.of word ≠ .separator := by
  induction spelled with
  | nil => simp
  | switches _ flag _ ih =>
    refine List.forall_mem_cons.mpr ⟨fun separator => ?_, ih⟩
    rw [separator] at flag
    contradiction
  | awaited form _ _ ih => exact List.forall_mem_cons.mpr ⟨form, ih⟩
  | value _ _ plain _ ih => exact List.forall_mem_cons.mpr ⟨by simp [plain], ih⟩

/-- A word that has the form of switches of the level is one of them: no value may look like that. -/
theorem mem_heard (spelled : l.Spelled awaiting words heard) :
    ∀ word ∈ words, l.knows word → word ∈ heard := by
  induction spelled with
  | nil => simp
  | switches _ _ _ ih =>
    refine List.forall_mem_cons.mpr ⟨fun _ => List.mem_cons_self, fun word member known => ?_⟩
    exact List.mem_cons_of_mem _ (ih word member known)
  | awaited _ unknown _ ih =>
    exact List.forall_mem_cons.mpr ⟨fun known => by simp [unknown] at known, ih⟩
  | value _ _ plain _ ih =>
    exact List.forall_mem_cons.mpr ⟨fun known => by simp [knows, plain] at known, ih⟩

theorem heard_eq {other : List String} (first : l.Spelled awaiting words heard)
    (second : l.Spelled awaiting words other) : heard = other := by
  induction first generalizing other with
  | nil =>
    cases second
    rfl
  | switches _ flag _ ih =>
    cases second with
    | switches _ _ later => rw [ih later]
    | value _ _ plain _ => simp [plain, WordForm.isFlag] at flag
  | awaited _ _ _ ih =>
    cases second with
    | awaited _ _ later => exact ih later
  | value _ _ plain _ ih =>
    cases second with
    | switches _ flag _ => simp [plain, WordForm.isFlag] at flag
    | value _ _ _ later => exact ih later

theorem of_append {whole : List String} (first : l.Spelled awaiting before heard)
    (all : l.Spelled awaiting (before ++ after) whole) : ∃ later, l.Spelled false after later := by
  induction first generalizing whole with
  | nil => exact ⟨whole, all⟩
  | switches _ flag _ ih =>
    cases all with
    | switches _ _ later => exact ih later
    | value _ _ plain _ => simp [plain, WordForm.isFlag] at flag
  | awaited _ _ _ ih =>
    cases all with
    | awaited _ _ later => exact ih later
  | value _ _ plain _ ih =>
    cases all with
    | switches _ flag _ => simp [plain, WordForm.isFlag] at flag
    | value _ _ _ later => exact ih later

/-- The name of a verb does not stand where a switch or a value is due. -/
theorem head_not_verb (spelled : l.Spelled false (word :: words) heard) : word ∉ l.verbs := by
  cases spelled <;> assumption

/-- The words up to the name of a verb end where it first stands so. -/
theorem before_eq {other heard' after' : List String} (verb : name ∈ l.verbs)
    (first : l.Spelled awaiting before heard) (second : l.Spelled awaiting other heard')
    (same : before ++ name :: after = other ++ name :: after') : before = other := by
  rcases List.append_eq_append_iff.mp same with ⟨between, shape, rest⟩ | ⟨between, shape, rest⟩
  · cases between with
    | nil => simpa using shape.symm
    | cons word between =>
      obtain ⟨rfl, -⟩ := List.cons.inj rest
      rw [shape] at second
      obtain ⟨later, next⟩ := first.of_append second
      exact absurd verb next.head_not_verb
  · cases between with
    | nil => simpa using shape
    | cons word between =>
      obtain ⟨rfl, -⟩ := List.cons.inj rest
      rw [shape] at first
      obtain ⟨later, next⟩ := second.of_append first
      exact absurd verb next.head_not_verb

end Spelled

end Level

/-! ## Whole command lines -/

/-- What comes after the switches of a level is nothing, or a separator and values behind it, or the words
that are passed on. -/
inductive Trails (passed : List String) : List String → Prop
  | nothing : passed = [] → Trails passed []
  | separator {later : List String} : passed <:+ later → Trails passed ("--" :: later)
  | passed {rest : List String} : rest ≠ [] → passed = rest → Trails passed rest

theorem Trails.eq_nil {passed between : List String} (unseparated : "--" ∉ between)
    (longer : Trails passed (between ++ rest)) (shorter : Trails passed rest) : between = [] := by
  cases between with
  | nil => rfl
  | cons word between =>
    rw [List.cons_append] at longer
    generalize whole : word :: (between ++ rest) = trail at longer
    cases longer with
    | nothing => contradiction
    | separator => simp [(List.cons.inj whole).1] at unseparated
    | passed some same =>
      -- the shorter trail is too short for what is passed on
      have longer : rest.length < passed.length := by
        rw [same, ← whole, List.length_cons, List.length_append]
        omega
      cases shorter with
      | nothing none => simp [none] at longer
      | separator behind =>
        have := behind.length_le
        simp only [List.length_cons] at longer
        omega
      | passed _ same => simp [same] at longer

/-- How a command line is laid out that names a verb: the words before the name and after it, with those of
them that are switches, and the values at the end. -/
structure Grammar.Layout (g : Grammar) (words : List String) (name : String) (m : Matches) where
  verb : VerbGrammar
  before : List String
  outer : List String
  after : List String
  inner : List String
  rest : List String
  found : g.verb? name = some verb
  whole : words = before ++ name :: (after ++ rest)
  leads : g.root.Spelled false before outer
  follows : verb.level.Spelled false after inner
  trails : Trails m.passed rest

namespace Grammar

variable {g : Grammar} {v : VerbGrammar} {m : Matches}

theorem verb?_eq_some (found : g.verb? name = some v) : v ∈ g.verbs ∧ v.name = name :=
  ⟨List.mem_of_find?_eq_some found, by simpa using List.find?_some found⟩

theorem verb?_eq_none : g.verb? name = none ↔ name ∉ g.root.verbs := by
  simp [verb?, root, List.find?_eq_none]

theorem mem_verbs (found : g.verb? name = some v) : name ∈ g.root.verbs :=
  List.mem_map.mpr ⟨v, verb?_eq_some found⟩

/-- A command line is laid out in one way only. -/
theorem Layout.eq (first second : g.Layout words name m) : first = second := by
  obtain ⟨v, before, outer, after, inner, rest, found, whole, leads, follows, trails⟩ := first
  obtain ⟨v', before', outer', after', inner', rest', found', whole', leads', follows', trails'⟩ := second
  obtain rfl : v = v' := Option.some.inj (found.symm.trans found')
  have same := whole.symm.trans whole'
  obtain rfl := leads.before_eq (mem_verbs found) leads' same
  obtain rfl := leads.heard_eq leads'
  have same : after ++ rest = after' ++ rest' := by simpa using same
  have absent {words heard : List String} (spelled : v.level.Spelled false words heard) :
      "--" ∉ words := fun member => spelled.unseparated _ member rfl
  obtain rfl : after = after' := by
    rcases List.append_eq_append_iff.mp same with ⟨between, rfl, rfl⟩ | ⟨between, rfl, rfl⟩
    · have inside := mt (List.mem_append_right after) (absent follows')
      rw [trails.eq_nil inside trails', List.append_nil]
    · have inside := mt (List.mem_append_right after') (absent follows)
      rw [trails'.eq_nil inside trails, List.append_nil]
  obtain rfl := List.append_cancel_left same
  obtain rfl := follows.heard_eq follows'
  rfl

end Grammar

/-! ## Parsers -/

/-- A positional argument that takes exactly one value. -/
structure Positional.Single (p : Positional) : Prop where
  min : p.min = 1
  max : p.max = some 1
  takesRest : p.takesRest = false

/-- Nothing else is known by the name of what is passed on. -/
def VerbGrammar.KeepsPassed (v : VerbGrammar) : Prop :=
  (∀ s ∈ v.level.switches, s.id ≠ Positional.passedOn.id) ∧
    ∀ p ∈ v.positionals, p.id = Positional.passedOn.id → p = Positional.passedOn

instance (v : VerbGrammar) : Decidable v.KeepsPassed :=
  inferInstanceAs (Decidable ((∀ s ∈ v.level.switches, s.id ≠ Positional.passedOn.id) ∧
    ∀ p ∈ v.positionals, p.id = Positional.passedOn.id → p = Positional.passedOn))

/-- The grammar of a program with registered verbs. -/
def Grammar.Built (g : Grammar) : Prop :=
  ∃ program configured registry, (ofRegistry program configured registry).2 = .ok g

/-- A parser that keeps to the documented syntax. -/
structure Parser.Documented (parser : Parser) : Prop where
  /-- A command line that is read with a verb is laid out by the grammar. -/
  laid {g : Grammar} {words : List String} {line : CommandLine} {name : String} {m : Matches} :
    g.Built → parser g words = .ok line → line.verb = some (name, m) →
    (∀ v ∈ g.verb? name, v.KeepsPassed) → Nonempty (g.Layout words name m)
  /-- The switch that asks for more to be said is raised if it is given at either level. -/
  raised {g : Grammar} {words : List String} {line : CommandLine} {name : String} {m : Matches} :
    g.Built → parser g words = .ok line → line.verb = some (name, m) →
    ∀ layout : g.Layout words name m, layout.verb.KeepsPassed → (line.verbose ↔
      Switch.verbose.id ∈ layout.outer.flatMap g.root.raisedBy ∨
        Switch.verbose.id ∈ layout.inner.flatMap layout.verb.level.raisedBy)
  /-- Plain words after the name of a verb are the values of the first positional arguments, in order, as
  long as each of these takes one. -/
  fills {g : Grammar} {v : VerbGrammar} {name word : String} {words rest : List String}
    {line : CommandLine} {m : Matches} {i : Nat} {p : Positional} :
    g.verb? name = some v → (v.positionals.map (·.id)).Nodup →
    (∀ word ∈ words, WordForm.of word = .plain) → parser g (name :: (words ++ rest)) = .ok line →
    line.verb = some (name, m) → v.positionals[i]? = some p → words[i]? = some word →
    (∀ q ∈ v.positionals.take (i + 1), q.Single) → m.texts.get? p.id = some [word]
  /-- Such words are enough if there is one for each required argument. -/
  accepts {g : Grammar} {v : VerbGrammar} {name : String} {words : List String} :
    g.verb? name = some v → (v.positionals.map (·.id)).Nodup →
    (∀ word ∈ words, WordForm.of word = .plain) → words.length ≤ v.positionals.length →
    (∀ p ∈ v.positionals.take words.length, p.Single) →
    (∀ p ∈ v.positionals, p.required → p ∈ v.positionals.take words.length) →
    g.configured ≠ some "" →
    ∃ line m, parser g (name :: words) = .ok line ∧ line.verb = some (name, m)

end CommandVerbs
