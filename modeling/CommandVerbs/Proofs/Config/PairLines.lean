import CommandVerbs.Config.File
import CommandVerbs.Proofs.KeyMap
import CommandVerbs.Proofs.Text.Lines

/-! What is read back from the lines of a map's pairs. A key without an equals sign ends where it
should, but a line whose key begins with `#` is a comment, and the blanks around a value are lost. -/
namespace CommandVerbs.Config

variable {key value line : List Char} {pair : String × String} {pairs : List (String × String)}

/-- A pair that stands on one line, with a key that ends at the first equals sign. -/
structure Writable (pair : String × String) : Prop where
  trimmed : Text.trimChars pair.1.toList = pair.1.toList
  named : pair.1.toList ≠ []
  undivided : '=' ∉ pair.1.toList
  keyLine : '\n' ∉ pair.1.toList
  valueLine : '\n' ∉ pair.2.toList

/-- What the line of a pair is read as. -/
def reread (pair : String × String) : Option (String × String) :=
  if pair.1.toList.head? = some '#' then none else some (pair.1, Text.trim pair.2)

/-- A pair that is read as itself. -/
def Lasting (pair : String × String) : Prop :=
  pair.1.toList.head? ≠ some '#' ∧ Text.trim pair.2 = pair.2

theorem reread_eq_self : reread pair = some pair ↔ Lasting pair := by
  obtain ⟨name, text⟩ := pair
  by_cases comment : name.toList.head? = some '#' <;> simp [reread, Lasting, comment]

theorem lasting_of_reread {other : String × String} (kept : reread pair = some other) :
    Lasting other := by
  unfold reread at kept
  split at kept
  · contradiction
  · rename_i plain
    obtain rfl := Option.some.inj kept
    refine ⟨plain, ?_⟩
    rw [Text.trim, Text.trim, String.toList_ofList, Text.trimChars_trimChars]

theorem reread_key {other : String × String} (kept : reread pair = some other) :
    other.1 = pair.1 := by
  unfold reread at kept
  split at kept
  · contradiction
  · rw [← Option.some.inj kept]

/-- Reading changes nothing where it would change no pair. -/
theorem filterMap_reread_eq_self : pairs.filterMap reread = pairs ↔ ∀ pair ∈ pairs, Lasting pair := by
  constructor
  · intro same pair member
    rw [← same] at member
    obtain ⟨_, _, kept⟩ := List.mem_filterMap.mp member
    exact lasting_of_reread kept
  · intro lasting
    have same : ∀ pair ∈ pairs, reread pair = some pair := fun pair member =>
      reread_eq_self.mpr (lasting pair member)
    rw [List.filterMap_congr same, List.filterMap_some]

/-- A trimmed key stays in front of its equals sign; only the end of the value is trimmed. -/
theorem trimChars_pairLine (trimmed : Text.trimChars key = key) (named : key ≠ [])
    (value : List Char) :
    Text.trimChars (key ++ '=' :: value) = key ++ '=' :: Text.dropBlanksEnd value := by
  obtain ⟨c, rest, rfl⟩ := List.exists_cons_of_ne_nil named
  rw [List.cons_append, Text.trimChars_cons (Text.head_trimChars trimmed),
    Text.dropBlanksEnd_append_cons rest (by decide), List.cons_append]

theorem pairOfLine?_eq (trimmed : Text.trimChars line = key ++ '=' :: value) (named : key ≠ [])
    (undivided : '=' ∉ key) :
    pairOfLine? line = if key.head? = some '#' ∨ Text.trimChars key = [] then none
      else some (Text.trimChars key, Text.trimChars value) := by
  obtain ⟨c, rest, rfl⟩ := List.exists_cons_of_ne_nil named
  have parts := Text.cut_append undivided value
  rw [pairOfLine?, trimmed]
  by_cases comment : c = '#'
  · simp [comment]
  by_cases nameless : Text.trimChars (c :: rest) = []
  · simp_all
  · simp_all

theorem exists_parts_of_pairOfLine? {read : List Char × List Char}
    (found : pairOfLine? line = some read) :
    ∃ key value, Text.trimChars line = key ++ '=' :: value ∧ key ≠ [] ∧ '=' ∉ key := by
  unfold pairOfLine? at found
  split at found
  · contradiction
  · contradiction
  split at found
  · contradiction
  rename_i before after divided
  obtain ⟨parts, undivided⟩ := Text.cut_eq_some divided
  refine ⟨before, after, parts, ?_, undivided⟩
  rintro rfl
  simp [Text.trimChars, Text.dropBlanks, Text.dropBlanksEnd] at found

/-- The pair on a line of a file can be written as it is. -/
theorem lasting_of_pairOfLine? {read : List Char × List Char} (single : '\n' ∉ line)
    (found : pairOfLine? line = some read) :
    Writable (String.ofList read.1, String.ofList read.2) ∧
      Lasting (String.ofList read.1, String.ofList read.2) := by
  obtain ⟨key, value, parts, named, undivided⟩ := exists_parts_of_pairOfLine? found
  rw [pairOfLine?_eq parts named undivided] at found
  by_cases lost : key.head? = some '#' ∨ Text.trimChars key = []
  · rw [if_pos lost] at found
    contradiction
  rw [if_neg lost] at found
  obtain rfl := Option.some.inj found
  obtain ⟨plain, kept⟩ := not_or.mp lost
  have within : ∀ c ∈ key ++ '=' :: value, c ∈ line := fun c member =>
    Text.mem_of_mem_trimChars (parts ▸ member)
  constructor
  · refine ⟨?_, ?_, ?_, ?_, ?_⟩ <;> simp only [String.toList_ofList]
    · exact Text.trimChars_trimChars key
    · exact kept
    · exact undivided ∘ Text.mem_of_mem_trimChars
    · exact fun member => single (within _ (by simp [Text.mem_of_mem_trimChars member]))
    · exact fun member => single (within _ (by simp [Text.mem_of_mem_trimChars member]))
  -- the line is trimmed, so its key keeps the first character when it is trimmed on its own
  · obtain ⟨c, rest, rfl⟩ := List.exists_cons_of_ne_nil named
    have solid : Text.isBlank c = false := Text.head_trimChars parts
    refine ⟨?_, ?_⟩
    · simpa [Text.trimChars_cons solid] using plain
    · rw [Text.trim, String.toList_ofList, Text.trimChars_trimChars]

theorem Writable.pairOfLine? {name text : String} (writable : Writable (name, text)) :
    pairOfLine? (Text.dropReturn (name.toList ++ '=' :: text.toList)) =
      if name.toList.head? = some '#' then none
      else some (name.toList, Text.trimChars text.toList) := by
  have whole := trimChars_pairLine writable.trimmed writable.named text.toList
  rw [← Text.trimChars_dropReturn] at whole
  rw [pairOfLine?_eq whole writable.named writable.undivided, writable.trimmed,
    Text.trimChars_dropBlanksEnd]
  simp only [writable.named, or_false]

/-- The pair that `readPairs` takes from a line. -/
def linePair? (line : List Char) : Option (String × String) :=
  (Config.pairOfLine? line).map fun (key, value) => (String.ofList key, String.ofList value)

theorem readPairs_eq (text : String) :
    readPairs text = .ofList ((Text.lineChars text.toList).filterMap linePair?) := rfl

theorem Writable.linePair? (writable : Writable pair) :
    linePair? (Text.dropReturn (pair.1.toList ++ '=' :: pair.2.toList)) = reread pair := by
  obtain ⟨name, text⟩ := pair
  rw [Config.linePair?, writable.pairOfLine?, reread]
  split <;> simp [Text.trim]

theorem Writable.single (writable : Writable pair) :
    '\n' ∉ pair.1.toList ++ '=' :: pair.2.toList := by
  simp [writable.keyLine, writable.valueLine]

theorem toList_lines_cons (pair : String × String) (rest : List (String × String)) :
    (String.join ((pair :: rest).map lineOf)).toList =
      (pair.1.toList ++ '=' :: pair.2.toList) ++
        '\n' :: (String.join (rest.map lineOf)).toList := by
  simp [lineOf]

theorem filterMap_linePair? (writable : ∀ pair ∈ pairs, Writable pair) :
    (Text.lineChars (String.join (pairs.map lineOf)).toList).filterMap linePair? =
      pairs.filterMap reread := by
  induction pairs with
  | nil => rfl
  | cons pair rest ih =>
    obtain ⟨first, writable⟩ := List.forall_mem_cons.mp writable
    rw [toList_lines_cons, Text.lineChars_append first.single, List.filterMap_cons,
      first.linePair?, ih writable, List.filterMap_cons]

/-- A text is made of the lines of at most one list of pairs. -/
theorem eq_of_lines {others : List (String × String)} (writable : ∀ pair ∈ pairs, Writable pair)
    (writable' : ∀ pair ∈ others, Writable pair)
    (same : (String.join (pairs.map lineOf)).toList = (String.join (others.map lineOf)).toList) :
    pairs = others := by
  induction pairs generalizing others with
  | nil =>
    cases others with
    | nil => rfl
    | cons other rest =>
      rw [toList_lines_cons] at same
      simp at same
  | cons pair rest ih =>
    cases others with
    | nil =>
      rw [toList_lines_cons] at same
      simp at same
    | cons other rest' =>
      obtain ⟨first, writable⟩ := List.forall_mem_cons.mp writable
      obtain ⟨first', writable'⟩ := List.forall_mem_cons.mp writable'
      have cuts := congrArg (Text.cut '\n') same
      rw [toList_lines_cons, toList_lines_cons, Text.cut_append first.single,
        Text.cut_append first'.single] at cuts
      obtain ⟨line, later⟩ := Prod.mk.inj (Option.some.inj cuts)
      have parts := congrArg (Text.cut '=') line
      rw [Text.cut_append first.undivided, Text.cut_append first'.undivided] at parts
      obtain ⟨key, value⟩ := Prod.mk.inj (Option.some.inj parts)
      rw [ih writable writable' later,
        Prod.ext (String.toList_injective key) (String.toList_injective value)]

theorem writePairs_injective {m n : KeyMap String} (writable : ∀ pair ∈ m.toList, Writable pair)
    (writable' : ∀ pair ∈ n.toList, Writable pair) (same : writePairs m = writePairs n) : m = n :=
  KeyMap.ext_toList (eq_of_lines writable writable' (congrArg String.toList same))

theorem toList_readPairs_writePairs {m : KeyMap String}
    (writable : ∀ pair ∈ m.toList, Writable pair) :
    (readPairs (writePairs m)).toList = m.toList.filterMap reread := by
  have ascending : Ascending (m.toList.filterMap reread) := by
    refine List.Pairwise.filterMap reread (fun a b less a' keptA b' keptB => ?_) m.ascending
    rw [reread_key keptA, reread_key keptB]
    exact less
  rw [readPairs_eq, writePairs, filterMap_linePair? writable, KeyMap.toList_ofList ascending]

/-- The pairs of any text are written and read as they are. -/
theorem lasting_of_mem_readPairs {text : String} (member : pair ∈ (readPairs text).toList) :
    Writable pair ∧ Lasting pair := by
  obtain ⟨line, inside, found⟩ := List.mem_filterMap.mp (KeyMap.mem_of_mem_ofList member)
  obtain ⟨read, held, rfl⟩ := Option.map_eq_some_iff.mp found
  exact lasting_of_pairOfLine? (Text.not_mem_of_mem_lineChars inside) held

end CommandVerbs.Config
