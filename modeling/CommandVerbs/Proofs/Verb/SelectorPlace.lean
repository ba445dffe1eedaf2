import CommandVerbs.Proofs.CommandLine.Building
import CommandVerbs.Proofs.CommandLine.Levels
import CommandVerbs.Proofs.Verb.SuppliedValues

/-! Where a command with modifiers finds the word that selects one. The argument for it comes after
those of the declaration and of the bundles, so these take the first words of the command line. -/
namespace CommandVerbs

variable {v : Verb} {g : VerbGrammar} {a : ArgumentSpec}

/-- The grammar of a verb has the verb's open arguments, and the verb's arguments are acceptable. -/
theorem Verb.Sound.grammar_positionals (sound : v.Sound) (made : (VerbGrammar.ofVerb v).2 = .ok g) :
    Verb.Acceptable v.arguments ∧ g.positionals =
      (v.arguments.drop v.supplied.length).map Positional.ofArgument ++
        (if v.attributes.passthrough then [Positional.passedOn] else []) := by
  obtain ⟨reviewed, alike, -⟩ := sound.reviewOptions
  have passed : Verb.firstMistake? v.name v.arguments = none := by
    rw [← sound.refusal?_validate, ← (Verb.grammar_validates v).2, made, refusal?_ok]
  refine ⟨Verb.firstMistake?_eq_none.mp passed, ?_⟩
  have opened := (reviewed.read .openArguments).2
  have listed : v.reviewOptions.readOpenArguments.2 =
      .ok (v.arguments.drop v.supplied.length) := by
    have answer := opened.2
    simp only [Verb.read, Verb.answerTo, Verb.Answer.arguments.injEq] at answer
    rw [answer, alike.ruling, Verb.ruling, passed, alike.supplied]
    rfl
  have same : v.reviewOptions.readOpenArguments.1.attributes = v.attributes :=
    opened.1.attributes.trans alike.attributes
  simp only [VerbGrammar.ofVerb, listed, Except.map, Except.ok.injEq] at made
  rw [← made, VerbGrammar.ofChecked, same]

theorem Positional.ofArgument_single (one : a.min = 1 ∧ a.max = some 1) :
    (Positional.ofArgument a).Single where
  min := by simp [Positional.ofArgument, one.1]
  max := by simp [Positional.ofArgument, one.2]
  takesRest := rfl

namespace MultiCommand

variable {name : String} {body : Body} {d : Declaration} {made : MultiCommand × List String}

/-- The arguments that a verb has from its declaration and its bundles. -/
def givenArguments (name : String) (d : Declaration) : List ArgumentSpec :=
  (Bundle.completeAll (.ofDeclaration name d) d.bundles).1.arguments

theorem declare_arguments (declared : declare name body d = .ok made) :
    made.1.command.verb.arguments =
      givenArguments name d ++ selectorArgument d.modifiers :: trailingArguments d.modifiers := by
  rw [(Registry.declare_multi_verb declared).2, Verb.addArguments_arguments,
    Verb.addArguments_arguments, List.append_assoc]
  rfl

/-- The arguments for a selected modifier may be left out. -/
theorem trailing_optional {modifiers : List Modifier} (member : a ∈ trailingArguments modifiers) :
    a.name = Modifier.trailing ∧ a.required = false := by
  unfold trailingArguments at member
  split at member
  · contradiction
  · split at member <;> obtain rfl := List.mem_singleton.mp member <;> exact ⟨rfl, rfl⟩

/-- The arguments that take a single word each: the given ones and the one that selects. -/
def singles (name : String) (d : Declaration) : List ArgumentSpec :=
  givenArguments name d ++ [selectorArgument d.modifiers]

theorem arguments_singles (declared : declare name body d = .ok made) :
    made.1.command.verb.arguments = singles name d ++ trailingArguments d.modifiers := by
  rw [declare_arguments declared, singles, List.append_assoc, List.singleton_append]

theorem singles_single (declared : declare name body d = .ok made)
    (acceptable : Verb.Acceptable made.1.command.verb.arguments) :
    ∀ a ∈ singles name d, a.min = 1 ∧ a.max = some 1 := by
  intro a member
  rcases List.mem_append.mp member with given | selects
  · refine acceptable.single a ?_
    rw [declare_arguments declared, List.dropLast_append_of_ne_nil (List.cons_ne_nil _ _)]
    exact List.mem_append_left _ given
  · obtain rfl := List.mem_singleton.mp selects
    exact ⟨rfl, rfl⟩

/-- The words that are read for a verb, after its supplied values. -/
def openSingles (name : String) (d : Declaration) (supplied : Nat) : List Positional :=
  ((singles name d).drop supplied).map Positional.ofArgument

section

variable (declared : declare name body d = .ok made) (sound : made.1.command.verb.Sound)
  (grammar : (VerbGrammar.ofVerb made.1.command.verb).2 = .ok g)

include declared sound grammar

theorem openSingles_prefix :
    openSingles name d made.1.command.verb.supplied.length <+: g.positionals := by
  rw [(sound.grammar_positionals grammar).2, arguments_singles declared, List.drop_append,
    List.map_append, List.append_assoc]
  exact List.prefix_append _ _

theorem openSingles_single :
    ∀ p ∈ openSingles name d made.1.command.verb.supplied.length, p.Single := by
  intro p member
  obtain ⟨a, listed, rfl⟩ := List.mem_map.mp member
  have acceptable := (sound.grammar_positionals grammar).1
  exact Positional.ofArgument_single
    (singles_single declared acceptable a (List.mem_of_mem_drop listed))

/-- What follows the open single arguments is not required. -/
theorem mem_positionals {p : Positional} (member : p ∈ g.positionals) (required : p.required) :
    p ∈ openSingles name d made.1.command.verb.supplied.length := by
  rw [(sound.grammar_positionals grammar).2, arguments_singles declared, List.drop_append,
    List.map_append] at member
  rcases List.mem_append.mp member with argument | passed
  · rcases List.mem_append.mp argument with single | trailing
    · exact single
    · obtain ⟨a, listed, rfl⟩ := List.mem_map.mp trailing
      have optional := (trailing_optional (List.mem_of_mem_drop listed)).2
      simp [Positional.ofArgument, optional] at required
  · split at passed
    · rw [List.mem_singleton.mp passed] at required
      contradiction
    · contradiction

omit sound grammar declared in
theorem length_openSingles (name : String) (d : Declaration) (supplied : Nat) :
    (openSingles name d supplied).length = (givenArguments name d).length + 1 - supplied := by
  simp [openSingles, singles]

variable {parser : Parser} (documented : parser.Documented) {line : CommandLine} {program : Grammar}
  (found : program.verb? name = some g) (distinct : (g.positionals.map (·.id)).Nodup)
  {words rest : List String} (plain : ∀ word ∈ words, WordForm.of word = .plain)

include documented found distinct plain

/-- The word at the place of the argument that selects is matched with it. -/
theorem matched_selector {w : String} {i : Nat} {m : Matches}
    (reached : made.1.command.verb.supplied.length + i = (givenArguments name d).length)
    (there : words[i]? = some w) (accepted : parser program (name :: (words ++ rest)) = .ok line)
    (invoked : line.verb = some (name, m)) : m.texts.get? Modifier.selector = some [w] := by
  have first := openSingles_prefix declared sound grammar
  have selector : (openSingles name d made.1.command.verb.supplied.length)[i]? =
      some (Positional.ofArgument (selectorArgument d.modifiers)) := by
    rw [openSingles, List.getElem?_map, List.getElem?_drop, reached, singles,
      List.getElem?_concat_length, Option.map_some]
  have place : g.positionals[i]? = some (Positional.ofArgument (selectorArgument d.modifiers)) := by
    obtain ⟨later, split⟩ := first
    rw [← split, List.getElem?_append_left (List.getElem?_eq_some_iff.mp selector).1, selector]
  refine documented.fills found distinct plain accepted invoked place there fun q member => ?_
  refine openSingles_single declared sound grammar q ?_
  have length := length_openSingles name d made.1.command.verb.supplied.length
  rw [show g.positionals.take (i + 1) =
      openSingles name d made.1.command.verb.supplied.length from ?_] at member
  · exact member
  · rw [List.prefix_iff_eq_take.mp first, length]
    congr 1
    omega

/-- Of the supplied values and the plain words that lead the command line, the one at the place of the
argument that selects is seen as its value. -/
theorem selected_word (names : (made.1.command.verb.arguments.map (·.name)).Nodup) {w : String}
    (there : (made.1.command.verb.supplied ++ words)[(givenArguments name d).length]? = some w)
    {m : Matches} {seen : Invocation} (accepted : parser program (name :: (words ++ rest)) = .ok line)
    (invoked : line.verb = some (name, m))
    (read : (made.1.command.verb.invocation m).2 = .ok seen) :
    seen.values.text? Modifier.selector = some w := by
  have place : made.1.command.verb.arguments[(givenArguments name d).length]? =
      some (selectorArgument d.modifiers) := by
    rw [declare_arguments declared, List.getElem?_append_right (Nat.le_refl _), Nat.sub_self]
    rfl
  have last := Verb.names_after_differ names place
  obtain ⟨⟨values, -, rfl⟩, -⟩ := Verb.invocation_eq_ok.mp read
  have seen : (made.1.command.verb.seeing m values).values.get? Modifier.selector =
      some (.text w) := by
    rcases Nat.lt_or_ge (givenArguments name d).length made.1.command.verb.supplied.length with
      early | late
    · rw [List.getElem?_append_left early] at there
      exact Verb.seeing_leading values place there last
    · rw [List.getElem?_append_right late] at there
      have given := matched_selector declared sound grammar documented found distinct plain
        (Nat.add_sub_cancel' late) there accepted invoked
      refine Verb.seeing_open values place late ?_ last
      rw [Matches.argumentOf?, show (selectorArgument d.modifiers).name = Modifier.selector from rfl,
        given]
      rfl
  rw [Values.text?, seen]

/-- Plain words up to that for the argument that selects are enough. -/
theorem accepted_enough (named : program.configured ≠ some "")
    (count : made.1.command.verb.supplied.length + words.length =
      (givenArguments name d).length + 1) :
    ∃ line m, parser program (name :: words) = .ok line ∧ line.verb = some (name, m) := by
  have first := openSingles_prefix declared sound grammar
  have length := length_openSingles name d made.1.command.verb.supplied.length
  have firsts : g.positionals.take words.length =
      openSingles name d made.1.command.verb.supplied.length := by
    rw [List.prefix_iff_eq_take.mp first, length]
    congr 1
    omega
  have short : words.length ≤ g.positionals.length := by
    have := first.length_le
    omega
  refine documented.accepts found distinct plain short ?_ ?_ named <;> rw [firsts]
  · exact openSingles_single declared sound grammar
  · exact fun p member required => mem_positionals declared sound grammar member required

end

/-- A command with modifiers has the argument that selects one after all arguments of its declaration
and of its bundles. So that is the first one just if none comes before it. With a parser that keeps to the
syntax, of the supplied values and the plain words that follow the command's name it is the one at that
place that selects a modifier, not the first; words up to there are enough. -/
theorem selector_follows_given {parser : Parser} (documented : parser.Documented)
    (declared : declare name body d = .ok made) (operate : ∀ b ∈ d.bundles, b.Operates) :
    let v := made.1.command.verb
    let given := givenArguments name d
    v.arguments = given ++ selectorArgument d.modifiers :: trailingArguments d.modifiers ∧
    d.arguments <+: given ∧
    ((∃ a, v.arguments.head? = some a ∧ a.name = Modifier.selector) ↔
      ∀ a, given.head? = some a → a.name = Modifier.selector) ∧
    ∀ program g, (VerbGrammar.ofVerb v).2 = .ok g → program.verb? name = some g →
      (v.arguments.map (·.name)).Nodup → (g.positionals.map (·.id)).Nodup →
      ∀ words : List String, (∀ word ∈ words, WordForm.of word = .plain) →
        (∀ w, (v.supplied ++ words)[given.length]? = some w → ∀ rest line m seen,
          parser program (name :: (words ++ rest)) = .ok line → line.verb = some (name, m) →
            (v.invocation m).2 = .ok seen → seen.values.text? Modifier.selector = some w) ∧
        (v.supplied.length + words.length = given.length + 1 → program.configured ≠ some "" →
          ∃ line m, parser program (name :: words) = .ok line ∧ line.verb = some (name, m)) := by
  intro v given
  have arguments : v.arguments =
      given ++ selectorArgument d.modifiers :: trailingArguments d.modifiers :=
    declare_arguments declared
  have sound : v.Sound :=
    Registry.declare_multi_sound declared fun b member => (operate b member).keepsSound
  refine ⟨arguments, ?_, ?_, fun program g grammar found names distinct words plain => ⟨?_, ?_⟩⟩
  · have first := (Verb.Sound.ofDeclaration name d).completeAll_arguments operate
    rwa [Verb.ofDeclaration_arguments] at first
  · rw [arguments]
    cases given with
    | nil => simp [selectorArgument]
    | cons a rest => simp
  · exact fun w there rest line m seen =>
      selected_word declared sound grammar documented found distinct plain names there
  · exact fun count named =>
      accepted_enough declared sound grammar documented found distinct plain named count

/-- A command that works on a file. -/
def onFile (bundles : List Bundle) : Declaration where
  arguments := [{ name := "file", help := "" }]
  bundles
  modifiers := [.declare "get" (fun _ => Script.note "ran") "" ""]

/-- What may be said to a program that has no other verb. -/
def alone (g : VerbGrammar) : Grammar :=
  { program := { name := "verbkit", version := "", description := "" }, verbs := [g] }

theorem alone_found (named : g.name = name) : (alone g).verb? name = some g := by
  simp [alone, Grammar.verb?, named]

theorem selector_follows_given_onFile :
    Parser.Documented Grammar.read ∧ ∃ made g line m,
      declare "config" (fun context => context.go) (onFile [({} : ConnectionOptions).bundle]) =
        .ok made ∧
      (VerbGrammar.ofVerb made.1.command.verb).2 = .ok g ∧ (alone g).verb? "config" = some g ∧
      (alone g).read ["config", "a.txt", "get"] = .ok line ∧ line.verb = some ("config", m) ∧
      ∀ seen, (made.1.command.verb.invocation m).2 = .ok seen →
        seen.values.text? Modifier.selector = some "get" := by
  have operate : ∀ b ∈ [({} : ConnectionOptions).bundle], b.Operates := by
    simp [(Bundle.Stock.connection {}).operates]
  have plain : ∀ word ∈ ["a.txt", "get"], WordForm.of word = .plain := by decide +kernel
  have distinct : ["file", Modifier.selector].Nodup := by decide
  have declared : declare "config" (fun context => context.go)
      (onFile [({} : ConnectionOptions).bundle]) = .ok _ := rfl
  obtain ⟨-, -, -, selects⟩ := selector_follows_given Grammar.read_documented declared operate
  obtain ⟨selected, enough⟩ := selects (alone _) _ rfl (alone_found rfl) distinct distinct
    ["a.txt", "get"] plain
  obtain ⟨line, m, accepted, invoked⟩ := enough rfl (by simp [alone])
  exact ⟨Grammar.read_documented, _, _, line, m, declared, rfl, alone_found rfl, accepted, invoked,
    fun seen => selected "get" rfl [] line m seen accepted invoked⟩

/-- The first word for a command that works on a file is the file, also where it is the name of the
only modifier; the second one is what selects. -/
theorem file_first :
    Parser.Documented Grammar.read ∧
    ∃ made, declare "config" (fun context => context.go) (onFile []) = .ok made ∧
      made.1.command.verb.arguments.map (·.name) = ["file", Modifier.selector] ∧
      (do
        let g ← (VerbGrammar.ofVerb made.1.command.verb).2.toOption
        let line ← ((alone g).read ["config", "get", "x"]).toOption
        let (_, m) ← line.verb
        let seen ← (made.1.command.verb.invocation m).2.toOption
        return (seen.values.text? "file", seen.values.text? Modifier.selector)) =
          some (some "get", some "x") :=
  ⟨Grammar.read_documented, _, rfl, rfl, by decide +kernel⟩

end MultiCommand

end CommandVerbs
