import CommandVerbs.Proofs.Spec.OptionOrder
import CommandVerbs.Verb.Basic

/-! What can be done with a verb: changes, and readings with their answers. A reading may carry
out a review that is due, which changes no more than the order of the options and the marks of
what has been reviewed, and no answer depends on these. -/
namespace CommandVerbs.Verb

open OptionSpec (sorted Distinct)

inductive Change where
  | addOptions (options : List OptionSpec)
  | addArguments (arguments : List ArgumentSpec)
  | supply (values : List String)
  | addToClasspath (paths : List String)
  | complete (defaults : Defaults)
  | mergeLaunchOptions (options : List String)

inductive Reading where
  | options
  | arguments
  | openArguments
  | validation
  | findOption (dest : String)
  | findArgument (name : String)
  | optionCount
  | argumentCount
  | attributes
  | classpath
  | supplied

inductive Answer where
  | options (listing : List OptionSpec)
  | arguments (list : Except DeclarationFault (List ArgumentSpec))
  | verdict (result : Except DeclarationFault Unit)
  | option (found : Option OptionSpec)
  | argument (found : Option ArgumentSpec)
  | count (n : Nat)
  | attributes (attributes : Attributes)
  | classpath (classpath : Option String)
  | supplied (values : List String)

def change (v : Verb) : Change → Verb
  | .addOptions options => v.addOptions options
  | .addArguments arguments => v.addArguments arguments
  | .supply values => v.supply values
  | .addToClasspath paths => v.addToClasspath paths
  | .complete defaults => v.complete defaults
  | .mergeLaunchOptions options => v.mergeLaunchOptions options

def read (v : Verb) : Reading → Verb × Answer
  | .options => (v.reviewOptions, .options v.reviewOptions.options)
  | .arguments => (v.readArguments.1, .arguments v.readArguments.2)
  | .openArguments => (v.readOpenArguments.1, .arguments v.readOpenArguments.2)
  | .validation => (v.validate.1, .verdict v.validate.2)
  | .findOption dest => (v, .option (v.findOption? dest))
  | .findArgument name => (v, .argument (v.findArgument? name))
  | .optionCount => (v, .count v.options.length)
  | .argumentCount => (v, .count v.arguments.length)
  | .attributes => (v, .attributes v.attributes)
  | .classpath => (v, .classpath v.classpath)
  | .supplied => (v, .supplied v.supplied)

inductive Operation where
  | change (change : Change)
  | read (reading : Reading)

def Operation.changes : Operation → Bool
  | .change _ => true
  | .read _ => false

/-- Carries out an operation; only a reading has an answer. -/
def perform (v : Verb) : Operation → Verb × Option Answer
  | .change c => (v.change c, none)
  | .read r => ((v.read r).1, some (v.read r).2)

/-- The verb after operations. -/
def after (v : Verb) : List Operation → Verb
  | [] => v
  | op :: rest => (v.perform op).1.after rest

/-- What is answered in the course of operations. -/
def answers (v : Verb) : List Operation → List Answer
  | [] => []
  | op :: rest => (v.perform op).2.toList ++ (v.perform op).1.answers rest

/-- The options have destinations of their own, and what counts as reviewed is in order. -/
structure Sound (v : Verb) : Prop where
  distinct : Distinct v.options
  listed : v.optionsReview = .done → v.options.Pairwise OptionSpec.Before
  checked : v.argumentsReview = .done → firstMistake? v.name v.arguments = none

/-- The verbs differ at most in the order of their options and in what has been reviewed. -/
structure Alike (v w : Verb) : Prop where
  name : v.name = w.name
  attributes : v.attributes = w.attributes
  options : v.options.Perm w.options
  arguments : v.arguments = w.arguments
  classpath : v.classpath = w.classpath
  supplied : v.supplied = w.supplied

/-- What checking the arguments comes to. -/
def ruling (v : Verb) : Except DeclarationFault (List ArgumentSpec) :=
  match firstMistake? v.name v.arguments with
  | some mistake => .error mistake
  | none => .ok v.arguments

/-- The answers of a sound verb, told without reviews. -/
def answerTo (v : Verb) : Reading → Answer
  | .options => .options (sorted v.options)
  | .arguments => .arguments v.ruling
  | .openArguments => .arguments (v.ruling.map (·.drop v.supplied.length))
  | .validation => .verdict (v.ruling.map fun _ => ())
  | .findOption dest => .option (v.findOption? dest)
  | .findArgument name => .argument (v.findArgument? name)
  | .optionCount => .count v.options.length
  | .argumentCount => .count v.arguments.length
  | .attributes => .attributes v.attributes
  | .classpath => .classpath v.classpath
  | .supplied => .supplied v.supplied

variable {v w : Verb}

theorem Alike.refl (v : Verb) : Alike v v := ⟨rfl, rfl, .refl _, rfl, rfl, rfl⟩

theorem Alike.trans (first : Alike u v) (second : Alike v w) : Alike u w where
  name := first.name.trans second.name
  attributes := first.attributes.trans second.attributes
  options := first.options.trans second.options
  arguments := first.arguments.trans second.arguments
  classpath := first.classpath.trans second.classpath
  supplied := first.supplied.trans second.supplied

theorem Alike.symm (alike : Alike v w) : Alike w v where
  name := alike.name.symm
  attributes := alike.attributes.symm
  options := alike.options.symm
  arguments := alike.arguments.symm
  classpath := alike.classpath.symm
  supplied := alike.supplied.symm

theorem Alike.ruling (alike : Alike v w) : v.ruling = w.ruling := by
  simp only [Verb.ruling, alike.name, alike.arguments]

theorem Sound.initial (name : String) : Sound { name } where
  distinct := List.nodup_nil
  listed _ := .nil
  checked _ := rfl

/-! ## Changes -/

theorem findOption?_isSome : (v.findOption? dest).isSome ↔ dest ∈ v.options.map (·.dest) := by
  simp [findOption?]

theorem addOption_known {o : OptionSpec} (known : o.dest ∈ v.options.map (·.dest)) :
    v.addOption o = v := by
  rw [addOption, if_pos (findOption?_isSome.mpr known)]

theorem addOption_new {o : OptionSpec} (new : o.dest ∉ v.options.map (·.dest)) :
    v.addOption o = { v with options := v.options ++ [o], optionsReview := .due } := by
  rw [addOption, if_neg (mt findOption?_isSome.mp new)]

/-- Adding options changes nothing but the options. -/
theorem addOptions_eq (v : Verb) (options : List OptionSpec) :
    v.addOptions options =
      { v with
        options := (v.addOptions options).options
        optionsReview := (v.addOptions options).optionsReview } := by
  induction options generalizing v with
  | nil => rfl
  | cons o rest ih =>
    refine (ih (v.addOption o)).trans ?_
    by_cases known : o.dest ∈ v.options.map (·.dest)
    · simp only [addOptions, List.foldl_cons, addOption_known known]
    · simp only [addOptions, List.foldl_cons, addOption_new known]

theorem Sound.addOption (sound : Sound v) (o : OptionSpec) : Sound (v.addOption o) := by
  by_cases known : o.dest ∈ v.options.map (·.dest)
  · rwa [addOption_known known]
  · rw [addOption_new known]
    refine ⟨?_, fun due => by contradiction, sound.checked⟩
    rw [Distinct, List.map_append]
    exact List.nodup_append.mpr ⟨sound.distinct, by simp, by grind⟩

theorem Sound.addOptions (sound : Sound v) (options : List OptionSpec) :
    Sound (v.addOptions options) := by
  induction options generalizing v with
  | nil => exact sound
  | cons o rest ih => exact ih (sound.addOption o)

theorem Sound.change (sound : Sound v) (c : Change) : Sound (v.change c) := by
  cases c with
  | addOptions options => exact sound.addOptions options
  | addArguments arguments =>
    simp only [Verb.change, addArguments]
    split
    · exact sound
    · exact ⟨sound.distinct, sound.listed, fun due => by contradiction⟩
  | _ => exact ⟨sound.distinct, sound.listed, sound.checked⟩

theorem Alike.addOption (alike : Alike v w) (o : OptionSpec) :
    Alike (v.addOption o) (w.addOption o) := by
  have same := (alike.options.map (·.dest)).mem_iff (a := o.dest)
  by_cases known : o.dest ∈ v.options.map (·.dest)
  · rwa [addOption_known known, addOption_known (same.mp known)]
  · rw [addOption_new known, addOption_new (mt same.mpr known)]
    exact { alike with options := alike.options.append_right [o] }

theorem Alike.addOptions (alike : Alike v w) (options : List OptionSpec) :
    Alike (v.addOptions options) (w.addOptions options) := by
  induction options generalizing v w with
  | nil => exact alike
  | cons o rest ih => exact ih (alike.addOption o)

theorem Alike.change (alike : Alike v w) (c : Change) : Alike (v.change c) (w.change c) := by
  cases c with
  | addOptions options => exact alike.addOptions options
  | addArguments arguments =>
    simp only [Verb.change, addArguments]
    split
    · exact alike
    · exact { alike with arguments := congrArg (· ++ arguments) alike.arguments }
  | supply values => exact { alike with supplied := congrArg (· ++ values) alike.supplied }
  | addToClasspath paths =>
    exact { alike with classpath := by simp only [Verb.change, addToClasspath, alike.classpath] }
  | complete defaults =>
    exact { alike with attributes := congrArg (·.complete defaults) alike.attributes }
  | mergeLaunchOptions options =>
    exact { alike with attributes := congrArg (·.mergeLaunchOptions options) alike.attributes }

/-! ## Readings -/

theorem reviewOptions_alike (v : Verb) : Alike v.reviewOptions v := by
  unfold Verb.reviewOptions
  split
  · exact .refl v
  · exact { Alike.refl v with options := OptionSpec.sorted_perm v.options }

theorem reviewArguments_ok {checked : Verb} (passed : v.reviewArguments = .ok checked) :
    checked = { v with argumentsReview := .done } := by
  unfold Verb.reviewArguments at passed
  split at passed
  · rename_i done
    rw [← Except.ok.inj passed, ← done]
  · split at passed
    · contradiction
    · exact (Except.ok.inj passed).symm

theorem readArguments_alike (v : Verb) : Alike v.readArguments.1 v := by
  unfold Verb.readArguments
  cases reviewed : v.reviewArguments with
  | error fault => exact .refl v
  | ok checked =>
    obtain rfl := reviewArguments_ok reviewed
    exact { Alike.refl v with }

theorem validate_alike (v : Verb) : Alike v.validate.1 v := by
  have options := v.reviewOptions_alike
  unfold validate
  cases reviewed : v.reviewOptions.reviewArguments with
  | error fault => simpa only [reviewed] using options
  | ok checked =>
    obtain rfl := reviewArguments_ok reviewed
    simpa only [reviewed] using { options with }

theorem read_alike (v : Verb) (r : Reading) : Alike (v.read r).1 v := by
  cases r with
  | options => exact v.reviewOptions_alike
  | arguments => exact v.readArguments_alike
  | openArguments => exact v.readArguments_alike
  | validation => exact v.validate_alike
  | _ => exact .refl v

theorem Sound.reviewOptions (sound : Sound v) :
    Sound v.reviewOptions ∧ Alike v.reviewOptions v ∧
      v.reviewOptions.options = sorted v.options := by
  unfold Verb.reviewOptions
  split
  · rename_i done
    exact ⟨sound, .refl v, (OptionSpec.sorted_eq_of_increasing (sound.listed done)).symm⟩
  · have perm := OptionSpec.sorted_perm v.options
    exact ⟨⟨sound.distinct.perm perm.symm, fun _ => sound.distinct.increasing, sound.checked⟩,
      { Alike.refl v with options := perm }, rfl⟩

/-- Checking refuses the arguments or changes nothing but the mark. -/
theorem Sound.reviewArguments (sound : Sound v) :
    (∃ mistake, v.reviewArguments = .error mistake ∧ v.ruling = .error mistake) ∨
      ∃ checked, v.reviewArguments = .ok checked ∧ v.ruling = .ok v.arguments ∧
        Sound checked ∧ Alike checked v ∧ checked.options = v.options := by
  unfold Verb.reviewArguments ruling
  cases done : v.argumentsReview with
  | done =>
    rw [sound.checked done]
    exact .inr ⟨v, rfl, rfl, sound, .refl v, rfl⟩
  | due =>
    cases checked : firstMistake? v.name v.arguments with
    | some mistake => exact .inl ⟨mistake, rfl, rfl⟩
    | none =>
      exact .inr ⟨_, rfl, rfl, ⟨sound.distinct, sound.listed, fun _ => checked⟩,
        { Alike.refl v with }, rfl⟩

theorem Sound.readArguments (sound : Sound v) :
    Sound v.readArguments.1 ∧ Alike v.readArguments.1 v ∧ v.readArguments.2 = v.ruling := by
  unfold Verb.readArguments
  rcases sound.reviewArguments with ⟨mistake, refused, ruling⟩ | ⟨checked, passed, ruling, kept⟩
  · rw [refused, ruling]
    exact ⟨sound, .refl v, rfl⟩
  · rw [passed, ruling]
    exact ⟨kept.1, kept.2.1, congrArg Except.ok kept.2.1.arguments⟩

theorem Sound.read (sound : Sound v) (r : Reading) :
    Sound (v.read r).1 ∧ Alike (v.read r).1 v ∧ (v.read r).2 = v.answerTo r := by
  cases r with
  | options =>
    obtain ⟨sorted, alike, listed⟩ := sound.reviewOptions
    exact ⟨sorted, alike, congrArg Answer.options listed⟩
  | arguments =>
    obtain ⟨known, alike, ruling⟩ := sound.readArguments
    exact ⟨known, alike, congrArg Answer.arguments ruling⟩
  | openArguments =>
    obtain ⟨known, alike, ruling⟩ := sound.readArguments
    refine ⟨known, alike, ?_⟩
    simp only [Verb.read, readOpenArguments, answerTo, ruling]
  | validation =>
    obtain ⟨sorted, alike, _⟩ := sound.reviewOptions
    simp only [Verb.read, validate, answerTo]
    rcases sorted.reviewArguments with ⟨mistake, refused, ruling⟩ | ⟨checked, passed, ruling, kept⟩
    · rw [refused, ← alike.ruling, ruling]
      exact ⟨sorted, alike, rfl⟩
    · rw [passed, ← alike.ruling, ruling]
      exact ⟨kept.1, kept.2.1.trans alike, rfl⟩
  | _ => exact ⟨sound, .refl v, rfl⟩

theorem Alike.answerTo (alike : Alike v w) (sound : Sound v) (r : Reading) :
    v.answerTo r = w.answerTo r := by
  cases r with
  | options => exact congrArg Answer.options (sound.distinct.sorted_eq alike.options)
  | arguments => exact congrArg Answer.arguments alike.ruling
  | openArguments => simp only [Verb.answerTo, alike.ruling, alike.supplied]
  | validation => simp only [Verb.answerTo, alike.ruling]
  | findOption dest =>
    exact congrArg Answer.option (sound.distinct.find?_perm alike.options dest)
  | findArgument name => simp only [Verb.answerTo, findArgument?, alike.arguments]
  | optionCount => exact congrArg Answer.count alike.options.length_eq
  | argumentCount => simp only [Verb.answerTo, alike.arguments]
  | attributes => exact congrArg Answer.attributes alike.attributes
  | classpath => exact congrArg Answer.classpath alike.classpath
  | supplied => exact congrArg Answer.supplied alike.supplied

/-! ## Sequences of operations -/

theorem Sound.perform (sound : Sound v) (op : Operation) : Sound (v.perform op).1 := by
  cases op with
  | change c => exact sound.change c
  | read r => exact (sound.read r).1

theorem Sound.after (sound : Sound v) (ops : List Operation) : Sound (v.after ops) := by
  induction ops generalizing v with
  | nil => exact sound
  | cons op rest ih => exact ih (sound.perform op)

theorem Alike.perform (alike : Alike v w) (sound : Sound v) (sound' : Sound w) (op : Operation) :
    Alike (v.perform op).1 (w.perform op).1 ∧ (v.perform op).2 = (w.perform op).2 := by
  cases op with
  | change c => exact ⟨alike.change c, rfl⟩
  | read r =>
    obtain ⟨_, first, answer⟩ := sound.read r
    obtain ⟨_, second, answer'⟩ := sound'.read r
    refine ⟨first.trans (alike.trans second.symm), congrArg some ?_⟩
    rw [answer, answer', alike.answerTo sound]

theorem Alike.answers (alike : Alike v w) (sound : Sound v) (sound' : Sound w)
    (ops : List Operation) : v.answers ops = w.answers ops := by
  induction ops generalizing v w with
  | nil => rfl
  | cons op rest ih =>
    obtain ⟨alike, answer⟩ := alike.perform sound sound' op
    rw [Verb.answers, Verb.answers, answer, ih alike (sound.perform op) (sound'.perform op)]

/-- Readings leave no trace: the changes alone lead to a verb that is alike. -/
theorem Alike.after (alike : Alike v w) (sound : Sound v) (sound' : Sound w)
    (ops : List Operation) : Alike (v.after ops) (w.after (ops.filter Operation.changes)) := by
  induction ops generalizing v w with
  | nil => exact alike
  | cons op rest ih =>
    cases op with
    | change c => exact ih (alike.change c) (sound.change c) (sound'.change c)
    | read r =>
      -- The other verb skips the reading.
      obtain ⟨known, same, _⟩ := sound.read r
      exact ih (same.trans alike) known sound'

end CommandVerbs.Verb
