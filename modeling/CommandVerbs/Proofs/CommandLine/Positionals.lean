import CommandVerbs.CommandLine.Reading
import CommandVerbs.Proofs.CommandLine.Syntax
import CommandVerbs.Proofs.KeyMap

/-! How words become the values of positional arguments. Plain words at the start of a level are taken,
one after another, by its first arguments, as long as each of these takes a single value. What has been
taken stays, whatever the words that follow. -/
namespace CommandVerbs

theorem bind_eq_ok {ε α β : Type} {first : Except ε α} {next : α → Except ε β} {b : β} :
    first >>= next = .ok b ↔ ∃ a, first = .ok a ∧ next a = .ok b := by
  cases first <;> simp [bind, Except.bind]

/-- The matches that the words of a level leave. -/
def Level.matched (l : Level) (configured : Option String) (words : List String) :
    Except Stop Matches := do
  l.finish configured (← l.readWords words {})

namespace Reading

variable {r r' : Reading} {m m' : Matches} {slot : Slot} {s : Switch} {p : Positional} {id : String}
  {values more : List String}

/-- The values are recorded under a name, or are being collected for an argument of that name. -/
inductive Holds (r : Reading) (id : String) (values : List String) : Prop
  | recorded : r.matched.texts.get? id = some values → Holds r id values
  | pending {p : Positional} : p.id = id → r.pending = some (.positional p, values) →
      Holds r id values

/-! ## Recording -/

theorem record_positional :
    record (.positional p) values m = .ok m' ↔
      checkCount p.id p.min p.max values.length = .ok () ∧ m.contains p.id = false ∧
        m' = { m with texts := m.texts.insert p.id values } := by
  simp only [record]
  cases checked : checkCount p.id p.min p.max values.length with
  | error fault => simp [bind, Except.bind]
  | ok _ =>
    cases m.contains p.id <;> simp [bind, Except.bind, pure, Except.pure, throw, throwThe,
      MonadExceptOf.throw, eq_comm]

theorem recordSwitch_other {other : String} (done : recordSwitch s values m = .ok m')
    (different : other ≠ s.id) : m'.texts.get? other = m.texts.get? other := by
  unfold recordSwitch at done
  split at done
  · split at done
    · rw [← Except.ok.inj done]
    · contradiction
  · contradiction
  · rw [← Except.ok.inj done]
    exact KeyMap.get?_insert_other _ _ different
  · rw [← Except.ok.inj done]
    exact KeyMap.get?_insert_other _ _ different
  · rw [← Except.ok.inj done]

theorem record_switch (done : record (.switch s) values m = .ok m') :
    m.contains s.id = false ∧ recordSwitch s values m = .ok m' := by
  have checked : (if m.contains s.id then .error (.repeated s.id) else recordSwitch s values m) =
      .ok m' := by
    simp only [record] at done
    split at done
    · obtain ⟨_, -, done⟩ := bind_eq_ok.mp done
      exact done
    · exact done
  split at checked
  · contradiction
  · rename_i absent
    exact ⟨Bool.eq_false_iff.mpr absent, checked⟩

/-- What is recorded stays: nothing is recorded twice. -/
theorem record_keeps (recorded : m.texts.get? id = some values)
    (done : record slot more m = .ok m') : m'.texts.get? id = some values := by
  have present : m.contains id := by
    simp [Matches.contains, KeyMap.contains, recorded]
  cases slot with
  | positional p =>
    obtain ⟨-, absent, rfl⟩ := record_positional.mp done
    have different : id ≠ p.id := by
      rintro rfl
      simp [present] at absent
    exact (KeyMap.get?_insert_other _ _ different).trans recorded
  | switch s =>
    obtain ⟨absent, done⟩ := record_switch done
    have different : id ≠ s.id := by
      rintro rfl
      simp [present] at absent
    exact (recordSwitch_other done different).trans recorded

theorem take_eq_ok : r.take slot values = .ok r' ↔
    ∃ m, record slot values r.matched = .ok m ∧ r' = { r with matched := m } := by
  unfold take
  cases record slot values r.matched <;> simp [eq_comm]

theorem Holds.take_recorded (recorded : r.matched.texts.get? id = some values)
    (taken : r.take slot more = .ok r') : r'.matched.texts.get? id = some values := by
  obtain ⟨m, done, rfl⟩ := take_eq_ok.mp taken
  exact record_keeps recorded done

/-- Settling records what is being collected. -/
theorem Holds.settle (holds : r.Holds id values) (settled : r.settle = .ok r') :
    r'.matched.texts.get? id = some values := by
  unfold Reading.settle at settled
  cases holds with
  | recorded recorded =>
    split at settled
    · exact Except.ok.inj settled ▸ recorded
    · exact take_recorded (r := { r with pending := none }) recorded settled
  | pending named waits =>
    simp only [waits] at settled
    obtain ⟨m, done, rfl⟩ := take_eq_ok.mp settled
    obtain ⟨-, -, rfl⟩ := record_positional.mp done
    exact named ▸ KeyMap.get?_insert_same _ _ _

end Reading

namespace Level

open Reading (Holds)

variable {l : Level} {r r' : Reading} {s : Switch} {id word value : String} {values : List String}

/-! ## What has been taken stays -/

/-- No argument of the name takes several values. -/
def TakesOneFor (l : Level) (id : String) : Prop :=
  ∀ p ∈ l.positionals, p.repeats → p.id ≠ id

theorem act_holds {long : Bool} (holds : r.Holds id values) (acted : l.act s long r = .ok r') :
    r'.Holds id values := by
  obtain ⟨between, settled, acted⟩ := bind_eq_ok.mp acted
  split at acted
  · contradiction
  · contradiction
  · exact .recorded (Holds.take_recorded (holds.settle settled) acted)

theorem attach_holds (holds : r.Holds id values) (attached : attach s value r = .ok r') :
    r'.Holds id values := by
  obtain ⟨between, settled, taken⟩ := bind_eq_ok.mp attached
  exact .recorded (Holds.take_recorded (holds.settle settled) taken)

theorem await_holds (holds : r.Holds id values) (awaited : await s r = .ok r') :
    r'.Holds id values := by
  obtain ⟨between, settled, same⟩ := bind_eq_ok.mp awaited
  have recorded := holds.settle settled
  exact Except.ok.inj same ▸ .recorded recorded

theorem readLong_holds {value : Option String} (holds : r.Holds id values)
    (read : l.readLong s value r = .ok r') : r'.Holds id values := by
  unfold readLong at read
  split at read
  · exact attach_holds holds read
  · exact await_holds holds read
  · contradiction
  · exact act_holds holds read

theorem readShort_holds {flags : List Char} (holds : r.Holds id values)
    (read : l.readShort flags r = .ok r') : r'.Holds id values := by
  induction flags generalizing r with
  | nil => exact Except.ok.inj read ▸ holds
  | cons flag rest ih =>
    unfold readShort at read
    split at read
    · contradiction
    · split at read
      · split at read
        · exact await_holds holds read
        · exact attach_holds holds read
        · exact attach_holds holds read
      · split at read
        · contradiction
        · rename_i acted
          exact ih (act_holds holds acted) read

theorem start_holds {p : Positional} (holds : r.Holds id values)
    (started : readPositional.start word p r = .ok r') : r'.Holds id values := by
  obtain ⟨between, settled, same⟩ := bind_eq_ok.mp started
  have recorded := holds.settle settled
  exact Except.ok.inj same ▸ .recorded recorded

theorem readPositional_holds {following : List String} (one : l.TakesOneFor id)
    (holds : r.Holds id values) (read : l.readPositional word following r = .ok r') :
    r'.Holds id values := by
  unfold readPositional at read
  generalize (if l.leavesLast r following then r.position + 1 else r.position) = position at read
  cases here : l.positionals[position]? with
  | none => simp [here] at read
  | some p =>
    simp only [here] at read
    have moved : Holds { r with position, trailing := r.trailing || p.takesRest } id values := by
      cases holds with
      | recorded recorded => exact .recorded recorded
      | pending named waits => exact .pending named waits
    split at read
    · rename_i q collected waits
      split at read
      · rename_i more
        cases moved with
        | recorded recorded => exact Except.ok.inj read ▸ .recorded recorded
        | pending named waits' =>
          -- the argument that collects would take several values
          obtain ⟨same, -⟩ := Prod.mk.inj (Option.some.inj (waits.symm.trans waits'))
          obtain rfl := Slot.positional.inj same
          exact absurd (more.1.symm.trans named) (one p (List.mem_of_getElem? here) more.2)
      · exact start_holds moved read
    · exact start_holds moved read

theorem readValue_holds {following : List String} (one : l.TakesOneFor id)
    (holds : r.Holds id values) (read : l.readValue word following r = .ok r') :
    r'.Holds id values := by
  unfold readValue at read
  cases waits : r.waiting? with
  | none =>
    simp only [waits] at read
    exact readPositional_holds one holds read
  | some s =>
    simp only [waits] at read
    cases holds with
    | recorded recorded => exact Except.ok.inj read ▸ .recorded recorded
    | pending named waits' => simp [Reading.waiting?, waits'] at waits

theorem readWord_holds {following : List String} (one : l.TakesOneFor id)
    (holds : r.Holds id values) (read : l.readWord word following r = .ok r') :
    r'.Holds id values := by
  unfold readWord at read
  split at read
  · exact readPositional_holds one holds read
  · split at read
    · exact readValue_holds one holds read
    · obtain rfl := Except.ok.inj read
      cases holds with
      | recorded recorded => exact .recorded recorded
      | pending named waits => exact .pending named waits
    · split at read
      · exact readLong_holds holds read
      · split at read
        · exact readValue_holds one holds read
        · contradiction
    · split at read
      · exact readValue_holds one holds read
      · exact readShort_holds holds read

theorem readWords_holds {words : List String} (one : l.TakesOneFor id) (holds : r.Holds id values)
    (read : l.readWords words r = .ok r') : r'.Holds id values := by
  induction words generalizing r with
  | nil => exact Except.ok.inj read ▸ holds
  | cons word rest ih =>
    unfold readWords at read
    split at read
    · contradiction
    · rename_i next
      exact ih (readWord_holds one holds next) read

theorem finish_holds {configured : Option String} {m : Matches} (holds : r.Holds id values)
    (finished : l.finish configured r = .ok m) : m.texts.get? id = some values := by
  obtain ⟨between, settled, finished⟩ := bind_eq_ok.mp finished
  split at finished
  · contradiction
  · split at finished
    · contradiction
    · exact Except.ok.inj finished ▸ holds.settle settled

end Level

/-! ## Words for arguments that take a single value -/

theorem Positional.Single.repeats {p : Positional} (single : p.Single) : p.repeats = false := by
  simp [Positional.repeats, single.min, single.max]

/-- The level begins with arguments that take a single value, under names of their own. -/
structure Level.Begins (l : Level) (firsts : List Positional) : Prop where
  firsts_prefix : firsts <+: l.positionals
  single : ∀ p ∈ firsts, p.Single
  distinct : (firsts.map (·.id)).Nodup

/-- A word for each argument. -/
def oneEach (firsts : List Positional) (words : List String) : List (String × List String) :=
  (firsts.zip words).map fun (p, word) => (p.id, [word])

/-- What has been read is a word for each of as many arguments, and nothing else. -/
structure Reading.Past (firsts : List Positional) (words : List String) (r : Reading) : Prop where
  position : r.position = words.length
  trailing : r.trailing = false
  waiting : r.waiting? = none
  settled : r.settle =
    .ok { matched := { texts := .ofList (oneEach firsts words) }, position := words.length }
  holds : ∀ (i : Nat) (p : Positional) (word : String), firsts[i]? = some p → words[i]? = some word →
    r.Holds p.id [word]

namespace Level

variable {l : Level} {firsts : List Positional} {p : Positional} {r : Reading}
  {before words : List String} {word : String}

theorem past_nil : Reading.Past firsts [] {} where
  position := rfl
  trailing := rfl
  waiting := rfl
  settled := by simp [Reading.settle, oneEach, KeyMap.ofList]
  holds i p word _ given := by simp at given

theorem oneEach_append (place : firsts[words.length]? = some p) :
    oneEach firsts (words ++ [word]) = oneEach firsts words ++ [(p.id, [word])] := by
  induction words generalizing firsts with
  | nil =>
    obtain ⟨later, rfl⟩ := List.head?_eq_some_iff.mp (List.head?_eq_getElem? ▸ place)
    simp [oneEach]
  | cons first words ih =>
    cases firsts with
    | nil => simp at place
    | cons q firsts => exact congrArg ((q.id, [first]) :: ·) (ih place)

theorem keys_oneEach (firsts : List Positional) (words : List String) :
    (oneEach firsts words).map (·.1) = (firsts.map (·.id)).take words.length := by
  induction words generalizing firsts with
  | nil => simp [oneEach]
  | cons first words ih =>
    cases firsts with
    | nil => simp [oneEach]
    | cons q firsts => exact congrArg (q.id :: ·) (ih firsts)

theorem mem_oneEach {i : Nat} (place : firsts[i]? = some p) (given : words[i]? = some word) :
    (p.id, [word]) ∈ oneEach firsts words :=
  List.mem_map.mpr
    ⟨(p, word), List.mem_of_getElem? (List.getElem?_zip_eq_some.mpr ⟨place, given⟩), rfl⟩

theorem Begins.get?_oneEach (begins : l.Begins firsts) {i : Nat} (place : firsts[i]? = some p)
    (given : words[i]? = some word) : (KeyMap.ofList (oneEach firsts words)).get? p.id = some [word] := by
  rw [KeyMap.get?_ofList]
  · exact mem_oneEach place given
  · rw [keys_oneEach]
    exact begins.distinct.sublist (List.take_sublist _ _)

/-- An argument that has had no word yet is not among those recorded. -/
theorem Begins.contains_oneEach (begins : l.Begins firsts) (place : firsts[words.length]? = some p) :
    (KeyMap.ofList (oneEach firsts words)).contains p.id = false := by
  rw [← Bool.not_eq_true, ← KeyMap.mem_keys_iff]
  intro member
  obtain ⟨e, member, same⟩ := List.mem_map.mp member
  have earlier : p.id ∈ (firsts.map (·.id)).take words.length := by
    rw [← keys_oneEach, ← same]
    exact List.mem_map.mpr ⟨e, KeyMap.mem_of_mem_ofList member, rfl⟩
  have here : p.id ∈ (firsts.map (·.id)).drop words.length := by
    refine List.mem_of_getElem? (i := 0) ?_
    rw [List.getElem?_drop, Nat.add_zero, List.getElem?_map, place, Option.map_some]
  exact List.disjoint_take_drop begins.distinct (Nat.le_refl _) earlier here

theorem Begins.leavesLast (begins : l.Begins firsts) (early : r.position < firsts.length)
    (following : List String) : l.leavesLast r following = false := by
  cases aligned : r.position + 2 == l.positionals.length with
  | false => simp [Level.leavesLast, aligned]
  | true =>
    have short : l.positionals.dropLast.length ≤ firsts.length := by
      rw [List.length_dropLast, ← beq_iff_eq.mp aligned]
      omega
    have earlier : l.positionals.dropLast <+: firsts :=
      List.prefix_of_prefix_length_le (List.dropLast_prefix _) begins.firsts_prefix short
    have none : l.positionals.dropLast.any (·.repeats) = false := by
      rw [List.any_eq_false]
      intro q member
      simp [(begins.single q (earlier.subset member)).repeats]
    simp [Level.leavesLast, none]

theorem readPositional_single {following : List String} (single : p.Single)
    (place : l.positionals[r.position]? = some p) (leaves : l.leavesLast r following = false) :
    l.readPositional word following r = readPositional.start word p r := by
  have same : { r with position := r.position, trailing := r.trailing || p.takesRest } = r := by
    rw [single.takesRest, Bool.or_false]
  simp only [readPositional, leaves, Bool.false_eq_true, if_false, place, same, single.repeats,
    and_false]
  split <;> rfl

/-- A plain word is the value of the next argument. -/
theorem Begins.readWord (begins : l.Begins firsts) (past : r.Past firsts before)
    (place : firsts[before.length]? = some p) (plain : WordForm.of word = .plain)
    (following : List String) :
    ∃ r', l.readWord word following r = .ok r' ∧ r'.Past firsts (before ++ [word]) := by
  have single := begins.single p (List.mem_of_getElem? place)
  have early : r.position < firsts.length := by
    rw [past.position]
    exact (List.getElem?_eq_some_iff.mp place).1
  have here : l.positionals[r.position]? = some p := by
    obtain ⟨later, split⟩ := begins.firsts_prefix
    rw [← split, List.getElem?_append_left early, past.position, place]
  -- the word is only collected for now; that it can be recorded is what settling needs
  have started : l.readWord word following r = .ok
      { matched := { texts := .ofList (oneEach firsts before) }
        pending := some (.positional p, [word])
        position := before.length + 1 } := by
    simp only [Level.readWord, past.trailing, Bool.false_eq_true, if_false, plain, readValue,
      past.waiting]
    rw [readPositional_single single here (begins.leavesLast early following)]
    simp only [readPositional.start, past.settled, single.repeats]
    rfl
  have recorded : Reading.record (.positional p) [word]
      { texts := .ofList (oneEach firsts before) } =
        .ok { texts := .ofList (oneEach firsts (before ++ [word])) } := by
    rw [Reading.record_positional, oneEach_append place, KeyMap.ofList_append_single]
    refine ⟨by rw [single.min, single.max]; rfl, ?_, rfl⟩
    simpa [Matches.contains, KeyMap.contains, KeyMap.get?, KeyMap.empty] using
      begins.contains_oneEach place
  refine ⟨_, started, by simp, rfl, rfl, ?_, ?_⟩
  · simp [Reading.settle, Reading.take, recorded]
  · intro i q other place' given
    by_cases last : i = before.length
    · obtain rfl : p = q := Option.some.inj (place.symm.trans (last ▸ place'))
      obtain rfl : word = other := by simpa [last] using given
      exact .pending rfl rfl
    · have earlier : before[i]? = some other := by
        have bound := (List.getElem?_eq_some_iff.mp given).1
        rw [List.length_append, List.length_singleton] at bound
        rwa [List.getElem?_append_left (by omega)] at given
      exact .recorded (begins.get?_oneEach place' earlier)

/-- Plain words are the values of the next arguments. -/
theorem Begins.readWords (begins : l.Begins firsts) (past : r.Past firsts before)
    (plain : ∀ word ∈ words, WordForm.of word = .plain)
    (fits : before.length + words.length ≤ firsts.length) (rest : List String) :
    ∃ r', l.readWords (words ++ rest) r = l.readWords rest r' ∧ r'.Past firsts (before ++ words) := by
  induction words generalizing r before with
  | nil => exact ⟨r, rfl, by rwa [List.append_nil]⟩
  | cons word words ih =>
    obtain ⟨here, plain⟩ := List.forall_mem_cons.mp plain
    rw [List.length_cons] at fits
    have here_fits : before.length < firsts.length := by omega
    have place : firsts[before.length]? = some firsts[before.length] :=
      List.getElem?_eq_getElem here_fits
    obtain ⟨next, read, past⟩ := begins.readWord past place here (words ++ rest)
    obtain ⟨last, reads, past⟩ := ih past plain (by rw [List.length_append]; simp; omega)
    refine ⟨last, ?_, by rwa [List.append_assoc] at past⟩
    rw [List.cons_append, Level.readWords, read]
    exact reads

/-- Whatever follows them, plain words that lead are the values of the first arguments. -/
theorem Begins.matched_texts (begins : l.Begins firsts)
    (plain : ∀ word ∈ words, WordForm.of word = .plain) (fits : words.length ≤ firsts.length) {i : Nat}
    (place : firsts[i]? = some p) (given : words[i]? = some word) (one : l.TakesOneFor p.id)
    {rest : List String} {configured : Option String} {m : Matches}
    (matched : l.matched configured (words ++ rest) = .ok m) : m.texts.get? p.id = some [word] := by
  obtain ⟨r, reads, past⟩ := begins.readWords past_nil plain (by simpa using fits) rest
  rw [Level.matched, reads] at matched
  obtain ⟨r', read, finished⟩ := bind_eq_ok.mp matched
  exact finish_holds (readWords_holds one (past.holds i p word place given) read) finished

/-- Plain words for the first arguments are enough if no others are required. -/
theorem Begins.matched_ok (begins : l.Begins firsts)
    (plain : ∀ word ∈ words, WordForm.of word = .plain) (fits : words.length = firsts.length)
    (enough : ∀ p ∈ l.positionals, p.required → p ∈ firsts) {configured : Option String}
    (named : configured ≠ some "") :
    l.matched configured words = .ok { texts := .ofList (oneEach firsts words) } := by
  obtain ⟨r, reads, past⟩ := begins.readWords past_nil plain (by simp [fits]) []
  rw [List.append_nil, Level.readWords] at reads
  have given : l.positionals.find? (fun p => p.required &&
      !Matches.contains { texts := .ofList (oneEach firsts words) } p.id) = none := by
    rw [List.find?_eq_none]
    intro p member missing
    obtain ⟨required, absent⟩ : p.required = true ∧
        Matches.contains { texts := .ofList (oneEach firsts words) } p.id = false := by
      simpa using missing
    obtain ⟨i, place⟩ := List.getElem?_of_mem (enough p member required)
    have bound : i < words.length := fits ▸ (List.getElem?_eq_some_iff.mp place).1
    have recorded := begins.get?_oneEach place (List.getElem?_eq_getElem bound)
    simp [Matches.contains, KeyMap.contains, recorded] at absent
  rw [Level.matched, reads]
  simp only [bind, Except.bind, Level.finish, past.settled, List.nil_append, given, named, false_and,
    if_false]
  rfl

end Level

end CommandVerbs
