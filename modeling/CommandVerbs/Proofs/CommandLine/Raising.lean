import CommandVerbs.Proofs.CommandLine.Positionals

/-! What the words of a level raise. A word that is read as switches raises those without a value in
it, up to one that takes the rest of the word; a value raises nothing, whatever it looks like. From a
separator on, and from the first word that is passed on, all words are values. -/
namespace CommandVerbs

variable {r r' r'' : Reading} {m m' : Matches} {slot : Slot} {s : Switch} {p : Positional}
  {word value id : String} {words values ids : List String}

/-- Values may be collected for the slot. -/
def Slot.Collects : Slot → Prop
  | .switch s => s.takesValue
  | .positional _ => True

namespace Reading

theorem checkCount_zero (id : String) (min : Nat) (max : Option Nat) :
    checkCount id min max 0 = .error (.missingValue id) := if_pos rfl

/-- A switch that takes a value is not recorded without one. -/
theorem record_none (takes : s.takesValue) :
    record (.switch s) [] m = .error (.missingValue s.id) := by
  rw [record, takes, List.length_nil, checkCount_zero]
  rfl

theorem record_raised (collects : slot.Collects) (done : record slot values m = .ok m') :
    m'.raised = m.raised := by
  cases slot with
  | positional p =>
    obtain ⟨-, -, rfl⟩ := record_positional.mp done
    rfl
  | switch s =>
    have takes : s.takesValue = true := collects
    obtain ⟨-, recorded⟩ := record_switch done
    cases values with
    | nil => simp [record_none takes] at done
    | cons value rest =>
      unfold Switch.takesValue at takes
      unfold recordSwitch at recorded
      split at recorded
      · split at recorded
        · rw [← Except.ok.inj recorded]
        · contradiction
      · contradiction
      · rw [← Except.ok.inj recorded]
      · rw [← Except.ok.inj recorded]
      · rename_i noInteger _ noPath noText
        cases action : s.action <;> simp_all

theorem record_raises (alone : s.takesValue = false) (done : record (.switch s) [] m = .ok m') :
    m'.raised = s.id :: m.raised := by
  obtain ⟨-, recorded⟩ := record_switch done
  have same : recordSwitch s [] m = .ok { m with raised := s.id :: m.raised } := by
    unfold Switch.takesValue at alone
    unfold recordSwitch
    cases action : s.action <;> simp_all
  rw [← Except.ok.inj (same.symm.trans recorded)]

theorem record_other (done : record slot values m = .ok m') (different : id ≠ slot.id) :
    m'.texts.get? id = m.texts.get? id := by
  cases slot with
  | positional p =>
    obtain ⟨-, -, rfl⟩ := record_positional.mp done
    exact KeyMap.get?_insert_other _ _ different
  | switch s =>
    obtain ⟨-, recorded⟩ := record_switch done
    exact recordSwitch_other recorded different

/-- Values are collected for what takes them. -/
def Collects (r : Reading) : Prop :=
  ∀ slot values, r.pending = some (slot, values) → slot.Collects

/-- Nothing has been read that goes by the name. -/
def Without (r : Reading) (id : String) : Prop :=
  r.matched.texts.get? id = none ∧ ∀ slot values, r.pending = some (slot, values) → id ≠ slot.id

/-- Before anything else is read, a switch has to have its value. -/
theorem settle_ok (collects : r.Collects) (settled : r.settle = .ok r') :
    r.waiting? = none ∧ ∃ m, m.raised = r.matched.raised ∧
      (∀ id, r.Without id → m.texts.get? id = none) ∧
      r' = { r with matched := m, pending := none } := by
  unfold Reading.settle at settled
  split at settled
  · rename_i none
    refine ⟨by simp [waiting?, none], r.matched, rfl, fun id absent => absent.1, ?_⟩
    rw [← Except.ok.inj settled, ← none]
  · rename_i slot values waits
    obtain ⟨m, done, rfl⟩ := take_eq_ok.mp settled
    have takes := collects slot values waits
    refine ⟨?_, m, record_raised takes done, fun id absent => ?_, rfl⟩
    · unfold waiting?
      rw [waits]
      split
      · rename_i s same
        obtain ⟨rfl, rfl⟩ := Prod.mk.inj (Option.some.inj same)
        simp [record_none takes] at done
      · rfl
    · exact (record_other done (absent.2 slot values waits)).trans absent.1

end Reading

namespace Level

variable {l : Level} {flags : List Char} {awaits : Bool}

/-- Among the names of the level, the given one is that of what takes whatever follows. -/
structure Apart (l : Level) (id : String) : Prop where
  switches : ∀ s ∈ l.switches, id ≠ s.id
  positionals : ∀ p ∈ l.positionals, p.id = id ↔ p.takesRest

/-- A reading has gone on and raised the given names. -/
structure Raises (l : Level) (r : Reading) (ids : List String) (r' : Reading) : Prop where
  collects : r'.Collects
  trailing : r'.trailing = r.trailing
  raised : ∀ id, id ∈ r'.matched.raised ↔ id ∈ r.matched.raised ∨ id ∈ ids
  without : ∀ id, l.Apart id → r.Without id → r'.Without id

theorem Raises.trans {more : List String} (first : l.Raises r ids r') (next : l.Raises r' more r'') :
    l.Raises r (ids ++ more) r'' where
  collects := next.collects
  trailing := next.trailing.trans first.trailing
  raised id := by rw [next.raised, first.raised, List.mem_append, or_assoc]
  without id apart absent := next.without id apart (first.without id apart absent)

theorem Raises.refl (collects : r.Collects) : l.Raises r [] r :=
  ⟨collects, rfl, fun id => by simp, fun _ _ absent => absent⟩

/-! ## Reading switches -/

/-- Switches have been read, and the last of them may wait for its value. -/
structure Hears (l : Level) (r : Reading) (ids : List String) (awaits : Bool) (r' : Reading) : Prop
    extends l.Raises r ids r' where
  settled : r.waiting? = none
  waits : r'.waiting?.isSome = awaits

theorem act_hears {long : Bool} (listed : s ∈ l.switches) (collects : r.Collects)
    (alone : s.takesValue = false) (acted : l.act s long r = .ok r') : l.Hears r [s.id] false r' := by
  obtain ⟨between, settled, acted⟩ := bind_eq_ok.mp acted
  obtain ⟨free, kept, same, absent, rfl⟩ := Reading.settle_ok collects settled
  split at acted
  · contradiction
  · contradiction
  · obtain ⟨m, done, rfl⟩ := Reading.take_eq_ok.mp acted
    have raised : m.raised = s.id :: kept.raised := Reading.record_raises alone done
    refine ⟨⟨by simp [Reading.Collects], rfl, fun id => ?_, fun id apart none => ?_⟩, free, rfl⟩
    · rw [raised, same, List.mem_cons, List.mem_singleton, or_comm]
    · exact ⟨(Reading.record_other done (apart.switches s listed)).trans (absent id none), by simp⟩

theorem attach_hears (listed : s ∈ l.switches) (collects : r.Collects) (takes : s.takesValue = true)
    (attached : attach s value r = .ok r') : l.Hears r [] false r' := by
  obtain ⟨between, settled, taken⟩ := bind_eq_ok.mp attached
  obtain ⟨free, kept, same, absent, rfl⟩ := Reading.settle_ok collects settled
  obtain ⟨m, done, rfl⟩ := Reading.take_eq_ok.mp taken
  have waits : (Slot.switch s).Collects := takes
  have raised : m.raised = kept.raised := Reading.record_raised waits done
  refine ⟨⟨by simp [Reading.Collects], rfl, fun id => by simp [raised, same],
    fun id apart none => ?_⟩, free, rfl⟩
  exact ⟨(Reading.record_other done (apart.switches s listed)).trans (absent id none), by simp⟩

theorem await_hears (listed : s ∈ l.switches) (collects : r.Collects) (takes : s.takesValue = true)
    (awaited : await s r = .ok r') : l.Hears r [] true r' := by
  obtain ⟨between, settled, same⟩ := bind_eq_ok.mp awaited
  obtain ⟨free, kept, raised, absent, rfl⟩ := Reading.settle_ok collects settled
  rw [← Except.ok.inj same]
  refine ⟨⟨fun slot values waits => ?_, rfl, fun id => by simp [raised], fun id apart none => ?_⟩,
    free, rfl⟩
  · obtain ⟨rfl, -⟩ := Prod.mk.inj (Option.some.inj waits)
    exact takes
  · refine ⟨absent id none, fun slot values waits => ?_⟩
    obtain ⟨rfl, -⟩ := Prod.mk.inj (Option.some.inj waits)
    exact apart.switches s listed

theorem readLong_hears {given : Option String} (listed : s ∈ l.switches) (collects : r.Collects)
    (read : l.readLong s given r = .ok r') :
    l.Hears r (if given.isNone && !s.takesValue then [s.id] else []) (given.isNone && s.takesValue)
      r' := by
  unfold readLong at read
  split at read
  · rename_i takes
    simpa using attach_hears listed collects takes read
  · rename_i takes
    simpa [takes] using await_hears listed collects takes read
  · contradiction
  · rename_i alone
    simpa [alone] using act_hears listed collects alone read

theorem mem_of_byShort? {flag : Char} (found : l.byShort? flag = some s) : s ∈ l.switches :=
  List.mem_of_find?_eq_some found

theorem mem_of_byLong? {flag : String} (found : l.byLong? flag = some s) : s ∈ l.switches :=
  List.mem_of_find?_eq_some found

theorem readShort_hears (some : flags ≠ []) (collects : r.Collects)
    (read : l.readShort flags r = .ok r') :
    l.Hears r (l.raisedShort flags) (l.awaitsShort flags) r' := by
  induction flags generalizing r with
  | nil => contradiction
  | cons flag rest ih =>
    cases known : l.byShort? flag with
    | none => simp [readShort, known] at read
    | some s =>
      have listed := mem_of_byShort? known
      simp only [readShort, known] at read
      simp only [raisedShort, awaitsShort, known]
      split at read
      · rename_i takes
        rw [if_pos takes, if_pos takes]
        split at read
        · exact await_hears listed collects takes read
        · exact attach_hears listed collects takes read
        · rename_i empty _
          rw [List.isEmpty_eq_false_iff.mpr empty]
          exact attach_hears listed collects takes read
      · rename_i alone
        rw [if_neg alone, if_neg alone]
        split at read
        · contradiction
        · rename_i acted
          have first := act_hears listed collects (Bool.eq_false_iff.mpr alone) acted
          cases rest with
          | nil => exact Except.ok.inj read ▸ first
          | cons =>
            have later := ih (by simp) first.collects read
            exact ⟨first.toRaises.trans later.toRaises, first.settled, later.waits⟩

/-! ## Reading values -/

/-- A word that is read for a positional argument is collected for it, and raises nothing. -/
structure Gives (l : Level) (word : String) (following : List String) (r : Reading) (p : Positional)
    (r' : Reading) : Prop where
  place : l.positionals[if l.leavesLast r following then r.position + 1 else r.position]? = some p
  waits : ∃ q values, q.id = p.id ∧ r'.pending = some (.positional q, values ++ [word]) ∧
    (r.Without p.id → values = [])
  settled : r.waiting? = none
  trailing : r'.trailing = (r.trailing || p.takesRest)
  raised : r'.matched.raised = r.matched.raised
  absent : ∀ id, r.Without id → r'.matched.texts.get? id = none
  position : p.repeats →
    r'.position = if l.leavesLast r following then r.position + 1 else r.position

theorem readPositional_gives {following : List String} (collects : r.Collects)
    (read : l.readPositional word following r = .ok r') : ∃ p, l.Gives word following r p r' := by
  unfold readPositional at read
  generalize moved : (if l.leavesLast r following then r.position + 1 else r.position) = position at read
  cases here : l.positionals[position]? with
  | none => simp [here] at read
  | some p =>
    refine ⟨p, ?_⟩
    simp only [here] at read
    have started {r' : Reading} (started : readPositional.start word p
        { r with position, trailing := r.trailing || p.takesRest } = .ok r') :
        l.Gives word following r p r' := by
      obtain ⟨between, settled, same⟩ := bind_eq_ok.mp started
      obtain ⟨free, m, raised, absent, rfl⟩ := Reading.settle_ok (by exact collects) settled
      rw [← Except.ok.inj same]
      exact ⟨moved ▸ here, ⟨p, [], rfl, rfl, fun _ => rfl⟩, free, rfl, raised, absent,
        fun repeats => moved ▸ if_pos repeats⟩
    split at read
    · rename_i q values waits
      split at read
      · rename_i more
        rw [← Except.ok.inj read]
        have free : r.waiting? = none := by simp [Reading.waiting?, show r.pending = _ from waits]
        refine ⟨moved ▸ here, ⟨q, values, more.1, rfl, fun without => ?_⟩, free, rfl, rfl,
          fun _ absent => absent.1, fun _ => moved.symm⟩
        exact absurd more.1.symm (without.2 _ _ waits)
      · exact started read
    · exact started read

theorem Gives.mem {following : List String} (gives : l.Gives word following r p r') :
    p ∈ l.positionals := List.mem_of_getElem? gives.place

theorem Gives.collects {following : List String} (gives : l.Gives word following r p r') :
    r'.Collects := by
  obtain ⟨q, values, -, waits, -⟩ := gives.waits
  simp [Reading.Collects, waits, Slot.Collects]

theorem Gives.unwaiting {following : List String} (gives : l.Gives word following r p r') :
    r'.waiting? = none := by
  obtain ⟨q, values, -, waits, -⟩ := gives.waits
  simp [Reading.waiting?, waits]

theorem Gives.without {following : List String} (gives : l.Gives word following r p r')
    (absent : r.Without id) (other : p.id ≠ id) : r'.Without id := by
  obtain ⟨q, values, same, waits, -⟩ := gives.waits
  refine ⟨gives.absent id absent, fun slot more pending => ?_⟩
  obtain ⟨rfl, -⟩ := Prod.mk.inj (Option.some.inj (waits.symm.trans pending))
  exact fun named => other (same.symm.trans named.symm)

/-- A value before those at the end raises nothing. -/
theorem Gives.raises {following : List String} (gives : l.Gives word following r p r')
    (takes : p.takesRest = false) : l.Raises r [] r' where
  collects := gives.collects
  trailing := by rw [gives.trailing, takes, Bool.or_false]
  raised id := by rw [gives.raised, List.mem_nil_iff, or_false]
  without id apart absent := by
    refine gives.without absent fun named => ?_
    rw [(apart.positionals p gives.mem).mp named] at takes
    contradiction

theorem leavesLast_at_last (last : r.position + 1 = l.positionals.length) (following : List String) :
    l.leavesLast r following = false := by
  have beyond : (r.position + 2 == l.positionals.length) = false := by
    simp only [beq_eq_false_iff_ne, ne_eq]
    omega
  simp [leavesLast, beyond]

/-- The last argument, if it repeats, collects all words that follow. -/
theorem readWords_collecting {q : Positional} (trailing : r.trailing = true)
    (waits : r.pending = some (.positional q, values)) (same : q.id = p.id) (repeats : p.repeats)
    (place : l.positionals[r.position]? = some p) (last : r.position + 1 = l.positionals.length)
    (words : List String) :
    l.readWords words r = .ok { r with pending := some (.positional q, values ++ words) } := by
  induction words generalizing r values with
  | nil => simp [readWords, ← waits]
  | cons word rest ih =>
    have collected : l.readWord word rest r =
        .ok { r with pending := some (.positional q, values ++ [word]) } := by
      simp only [readWord, trailing, if_true, readPositional, leavesLast_at_last last,
        Bool.false_eq_true, if_false, place, waits, same, repeats, and_self, Bool.true_or]
    rw [readWords, collected]
    simpa using ih (r := { r with pending := some (.positional q, values ++ [word]) }) trailing rfl
      place last

/-- Only the last argument, which repeats, may take whatever follows. -/
def RestLast (l : Level) : Prop :=
  ∀ i p, l.positionals[i]? = some p → p.takesRest → i + 1 = l.positionals.length ∧ p.repeats

/-- The first word that is passed on is followed by all others. -/
theorem Gives.passed {following : List String} (gives : l.Gives word following r p r')
    (rest : l.RestLast) (takes : p.takesRest) (absent : r.Without p.id)
    (read : l.readWords words r' = .ok r'') :
    ∃ q, q.id = p.id ∧ r'' = { r' with pending := some (.positional q, word :: words) } := by
  obtain ⟨q, values, same, waits, none⟩ := gives.waits
  obtain ⟨last, repeats⟩ := rest _ p gives.place takes
  rw [none absent, List.nil_append] at waits
  rw [← gives.position repeats] at last
  have place := gives.place
  rw [← gives.position repeats] at place
  have trailing : r'.trailing = true := by simp [gives.trailing, takes]
  rw [readWords_collecting trailing waits same repeats place last] at read
  exact ⟨q, same, (Except.ok.inj read).symm⟩

/-- What goes by the name, if anything, are the last of the words. -/
inductive Gathers (r : Reading) (id : String) (words : List String) : Prop
  | nothing : r.Without id → Gathers r id words
  | some {p : Positional} {values : List String} :
    p.id = id → r.pending = .some (.positional p, values) → values <:+ words → Gathers r id words

/-- Once only positional arguments follow, nothing more is raised. -/
theorem readWords_trailing (rest : l.RestLast) (apart : l.Apart id) (collects : r.Collects)
    (trailing : r.trailing = true) (absent : r.Without id) (read : l.readWords words r = .ok r') :
    r'.Collects ∧ r'.matched.raised = r.matched.raised ∧ Gathers r' id words := by
  induction words generalizing r with
  | nil => exact Except.ok.inj read ▸ ⟨collects, rfl, .nothing absent⟩
  | cons word words ih =>
    unfold readWords at read
    split at read
    · contradiction
    · rename_i next here
      rw [readWord, if_pos trailing] at here
      obtain ⟨p, gives⟩ := readPositional_gives collects here
      by_cases named : p.id = id
      · have takes := (apart.positionals p gives.mem).mp named
        obtain ⟨q, same, rfl⟩ := gives.passed rest takes (named ▸ absent) read
        refine ⟨by simp [Reading.Collects, Slot.Collects], gives.raised, ?_⟩
        exact .some (same.trans named) rfl (List.suffix_refl _)
      · obtain ⟨collects, raised, gathers⟩ := ih gives.collects (by simp [gives.trailing, trailing])
          (gives.without absent named) read
        refine ⟨collects, raised.trans gives.raised, ?_⟩
        cases gathers with
        | nothing absent => exact .nothing absent
        | some same waits behind => exact .some same waits (behind.trans (List.suffix_cons word words))

/-! ## Reading words -/

/-- A word before the values at the end has been read as the syntax has it: what has been heard is the
word if it is switches, and otherwise nothing. -/
structure Spells (l : Level) (word : String) (r : Reading) (heard : List String) (r' : Reading) : Prop
    extends l.Raises r (heard.flatMap l.raisedBy) r' where
  spelled {words more : List String} : (r.waiting? = none → word ∉ l.verbs) →
    l.Spelled r'.waiting?.isSome words more →
    l.Spelled r.waiting?.isSome (word :: words) (heard ++ more)

theorem Hears.spells (flag : (WordForm.of word).isFlag)
    (hears : l.Hears r (l.raisedBy word) (l.awaits word) r') : l.Spells word r [word] r' where
  toRaises := by simpa using hears.toRaises
  spelled unnamed later := by
    rw [hears.settled]
    exact .switches (unnamed hears.settled) flag (hears.waits ▸ later)

theorem Gives.spells {following : List String} (gives : l.Gives word following r p r')
    (plain : WordForm.of word = .plain) (takes : p.takesRest = false) : l.Spells word r [] r' where
  toRaises := gives.raises takes
  spelled unnamed later := by
    rw [gives.unwaiting] at later
    rw [gives.settled]
    exact .value (List.ne_nil_of_mem gives.mem) (unnamed gives.settled) plain later

theorem awaited_spells (collects : r.Collects) (waits : r.pending = some (.switch s, []))
    (unseparated : WordForm.of word ≠ .separator) (unknown : l.knows word = false) :
    l.Spells word r [] { r with pending := some (.switch s, [word]) } where
  collects slot values other := by
    obtain ⟨rfl, -⟩ := Prod.mk.inj (Option.some.inj other)
    exact collects _ _ waits
  trailing := rfl
  raised id := by simp
  without id apart absent := by
    refine ⟨absent.1, fun slot values other => ?_⟩
    obtain ⟨rfl, -⟩ := Prod.mk.inj (Option.some.inj other)
    exact absent.2 _ _ waits
  spelled _ later := by
    rw [Reading.waiting?, waits]
    exact .awaited unseparated unknown later

/-- What reading a word comes to as long as there have only been such words. -/
inductive Step (l : Level) (word : String) (following : List String) (r r' : Reading) : Prop
  | goes {heard : List String} : l.Spells word r heard r' → Step l word following r r'
  | separator : WordForm.of word = .separator → r' = { r with trailing := true } →
    Step l word following r r'
  | passed {p : Positional} : p.takesRest → l.Gives word following r p r' →
    Step l word following r r'

theorem readValue_step {following : List String} (rest : l.RestLast) (collects : r.Collects)
    (unknown : l.knows word = false) (unseparated : WordForm.of word ≠ .separator)
    (form : WordForm.of word = .plain ∨ l.restIsNext r)
    (read : l.readValue word following r = .ok r') : l.Step word following r r' := by
  unfold readValue at read
  cases waits : r.waiting? with
  | some s =>
    simp only [waits] at read
    have pending : r.pending = some (.switch s, []) := by
      unfold Reading.waiting? at waits
      split at waits
      · rw [← Option.some.inj waits]
        assumption
      · contradiction
    exact Except.ok.inj read ▸ .goes (awaited_spells collects pending unseparated unknown)
  | none =>
    simp only [waits] at read
    obtain ⟨p, gives⟩ := readPositional_gives collects read
    cases takes : p.takesRest with
    | true => exact .passed takes gives
    | false =>
      refine .goes (gives.spells (form.resolve_right fun next => ?_) takes)
      -- the argument that is next would be the last one, and takes the word
      unfold restIsNext at next
      cases place : l.positionals[r.position]? with
      | none => simp [place] at next
      | some q =>
        have takesRest : q.takesRest = true := by simpa [place] using next
        obtain ⟨last, -⟩ := rest _ q place takesRest
        have same := gives.place
        rw [leavesLast_at_last last, if_neg Bool.false_ne_true, place] at same
        rw [Option.some.inj same, takes] at takesRest
        contradiction

theorem readWord_step {following : List String} (rest : l.RestLast) (collects : r.Collects)
    (free : r.trailing = false) (read : l.readWord word following r = .ok r') :
    l.Step word following r r' := by
  simp only [readWord, free, Bool.false_eq_true, if_false] at read
  split at read
  · rename_i form
    exact readValue_step rest collects (by simp [knows, form]) (by simp [form]) (.inl form) read
  · rename_i form
    exact .separator form (Except.ok.inj read).symm
  · rename_i flag given form
    split at read
    · rename_i s known
      refine .goes (Hears.spells (by simp [form, WordForm.isFlag]) ?_)
      have raised : l.raisedBy word = if given.isNone && !s.takesValue then [s.id] else [] := by
        cases given <;> cases takes : s.takesValue <;> simp [raisedBy, form, known, takes]
      have waits : l.awaits word = (given.isNone && s.takesValue) := by
        cases given <;> simp [awaits, form, known]
      exact raised ▸ waits ▸ readLong_hears (mem_of_byLong? known) collects read
    · rename_i unknown
      -- a flag that the level lacks is a value, but only for what takes whatever follows
      split at read
      · rename_i next
        exact readValue_step rest collects (by simp [knows, form, unknown]) (by simp [form])
          (.inr next) read
      · contradiction
  · rename_i flags form
    split at read
    · rename_i next
      obtain ⟨next, unknown⟩ := Bool.and_eq_true_iff.mp next
      have unknown : l.knows word = false := by
        simpa [knows, form] using unknown
      exact readValue_step rest collects unknown (by simp [form]) (.inr next) read
    · refine .goes (Hears.spells (by simp [form, WordForm.isFlag]) ?_)
      have raised : l.raisedBy word = l.raisedShort flags := by simp [raisedBy, form]
      have waits : l.awaits word = l.awaitsShort flags := by simp [awaits, form]
      have some : flags ≠ [] := WordForm.ne_nil_of_short form
      exact raised ▸ waits ▸ readShort_hears some collects read

/-! ## Whole levels -/

/-- What a reading has of the words at the end goes by the name. -/
inductive Leaves (r : Reading) (id : String) : List String → Prop
  | nothing : r.Without id → Leaves r id []
  | separator {later : List String} : Gathers r id later → Leaves r id ("--" :: later)
  | passed {p : Positional} {rest : List String} :
    rest ≠ [] → p.id = id → r.pending = some (.positional p, rest) → Leaves r id rest

theorem readWord_collects {following : List String} (rest : l.RestLast) (collects : r.Collects)
    (read : l.readWord word following r = .ok r') : r'.Collects := by
  cases trailing : r.trailing with
  | true =>
    rw [readWord, if_pos trailing] at read
    obtain ⟨p, gives⟩ := readPositional_gives collects read
    exact gives.collects
  | false =>
    cases readWord_step rest collects trailing read with
    | goes spells => exact spells.collects
    | separator _ same => exact same ▸ collects
    | passed _ gives => exact gives.collects

theorem readWords_collects (rest : l.RestLast) (collects : r.Collects)
    (read : l.readWords words r = .ok r') : r'.Collects := by
  induction words generalizing r with
  | nil => exact Except.ok.inj read ▸ collects
  | cons word words ih =>
    unfold readWords at read
    split at read
    · contradiction
    · rename_i next here
      exact ih (readWord_collects rest collects here) read

/-- A switch that waits for its value does not get it from what follows a separator. -/
theorem unwaiting_of_trailing (collects : r.Collects) (trailing : r.trailing = true)
    (read : l.readWords words r = .ok r') (done : r'.waiting? = none) : r.waiting? = none := by
  cases words with
  | nil => rwa [Except.ok.inj read]
  | cons word words =>
    unfold readWords at read
    split at read
    · contradiction
    · rename_i next here
      rw [readWord, if_pos trailing] at here
      obtain ⟨p, gives⟩ := readPositional_gives collects here
      exact gives.settled

theorem readWords_spelled (rest : l.RestLast) (apart : l.Apart id) (last : l.verbs = [])
    (collects : r.Collects) (free : r.trailing = false) (absent : r.Without id)
    (read : l.readWords words r = .ok r') (done : r'.waiting? = none) :
    ∃ after heard trail, words = after ++ trail ∧ l.Spelled r.waiting?.isSome after heard ∧
      Leaves r' id trail ∧ r'.Collects ∧
      ∀ i, i ∈ r'.matched.raised ↔ i ∈ r.matched.raised ∨ i ∈ heard.flatMap l.raisedBy := by
  have unnamed (word : String) : word ∉ l.verbs := by simp [last]
  induction words generalizing r with
  | nil =>
    obtain rfl := Except.ok.inj read
    exact ⟨[], [], [], rfl, by simpa [done] using .nil, .nothing absent, collects, by simp⟩
  | cons word words ih =>
    unfold readWords at read
    split at read
    · contradiction
    · rename_i next here
      -- from a separator, or a word passed on, to the end all words are values
      cases readWord_step rest collects free here with
      | goes spells =>
        obtain ⟨after, heard, trail, split, spelled, leaves, collects, raised⟩ :=
          ih spells.collects (spells.trailing.trans free) (spells.without id apart absent) read
        refine ⟨word :: after, _ ++ heard, trail, congrArg (word :: ·) split,
          spells.spelled (fun _ => unnamed word) spelled, leaves, collects, fun i => ?_⟩
        rw [raised, spells.raised, List.flatMap_append, List.mem_append, or_assoc]
      | separator form same =>
        subst same
        have settled := unwaiting_of_trailing (r := { r with trailing := true }) collects rfl read done
        obtain ⟨collects, raised, gathers⟩ := readWords_trailing (r := { r with trailing := true })
          rest apart collects rfl absent read
        refine ⟨[], [], word :: words, rfl, ?_, ?_, collects, by simp [raised]⟩
        · rw [show r.waiting? = none from settled]
          exact .nil
        · exact WordForm.of_eq_separator.mp form ▸ .separator gathers
      | @passed p takes gives =>
        have named : p.id = id := (apart.positionals p gives.mem).mpr takes
        obtain ⟨q, same, rfl⟩ := gives.passed rest takes (named ▸ absent) read
        refine ⟨[], [], word :: words, rfl, ?_, .passed (by simp) (same.trans named) rfl, ?_, ?_⟩
        · rw [gives.settled]
          exact .nil
        · simp [Reading.Collects, Slot.Collects]
        · simp [gives.raised]

theorem finish_ok {configured : Option String} (collects : r.Collects)
    (finished : l.finish configured r = .ok m) :
    r.waiting? = none ∧ m.raised = r.matched.raised ∧
      ∀ id, r.Without id → m.texts.get? id = none := by
  obtain ⟨between, settled, finished⟩ := bind_eq_ok.mp finished
  obtain ⟨free, kept, same, absent, rfl⟩ := Reading.settle_ok collects settled
  split at finished
  · contradiction
  · split at finished
    · contradiction
    · exact Except.ok.inj finished ▸ ⟨free, same, absent⟩

/-- At the end of a level, its words are spelled by the syntax, and what is raised is what those raise
that are switches. -/
theorem matched_spelled {configured : Option String} (rest : l.RestLast) (apart : l.Apart id)
    (last : l.verbs = []) (matched : l.matched configured words = .ok m) :
    ∃ after heard trail, words = after ++ trail ∧ l.Spelled false after heard ∧
      Trails ((m.texts.get? id).getD []) trail ∧
      ∀ i, i ∈ m.raised ↔ i ∈ heard.flatMap l.raisedBy := by
  obtain ⟨r, read, finished⟩ := bind_eq_ok.mp matched
  have start : Reading.Collects {} := by simp [Reading.Collects]
  have empty : Reading.Without {} id := ⟨rfl, by simp⟩
  obtain ⟨settled, raises, absent⟩ := finish_ok (readWords_collects rest start read) finished
  obtain ⟨after, heard, trail, split, spelled, leaves, -, raised⟩ :=
    readWords_spelled rest apart last start rfl empty read settled
  refine ⟨after, heard, trail, split, spelled, ?_, fun i => by rw [raises, raised]; simp⟩
  cases leaves with
  | nothing none => exact .nothing (by rw [absent id none]; rfl)
  | separator gathers =>
    cases gathers with
    | nothing none =>
      rw [absent id none]
      exact .separator List.nil_suffix
    | some named waits behind =>
      rw [finish_holds (.pending named waits) finished]
      exact .separator behind
  | passed some named waits =>
    rw [finish_holds (.pending named waits) finished]
    exact .passed some rfl

end Level

end CommandVerbs
