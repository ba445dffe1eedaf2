import Mathlib.Data.List.TakeWhile
import CommandVerbs.Json.Record
import CommandVerbs.Proofs.Json.Storable
import CommandVerbs.Proofs.Json.Tokens
import CommandVerbs.Proofs.KeyMap

/-! What is written is read back. The structure of a written value is found again whatever the value is;
the value itself comes back if its numbers have 64 bits, its fields are in key order, and the arrays and
objects inside one another are few enough. -/
namespace CommandVerbs.Json

variable {text : String} {texts : List String} {tokens rest : List Token} {tree : Tree}
  {trees : List Tree} {entry : List Piece × Tree} {entries : List (List Piece × Tree)}
  {stack : List Frame} {need : Need} {chars : List Char} {value : Json} {items : List Json}
  {fields : List (String × Json)} {n depth : Nat}

/-! ## Numbers -/

/-- No number but zero is written with a zero in front. -/
theorem head?_toDigits (positive : 0 < n) : (Nat.toDigits 10 n).head? ≠ some '0' := by
  induction n using Nat.strongRecOn with
  | ind n ih =>
    by_cases small : n < 10
    · have all : ∀ n < 10, 0 < n → (Nat.toDigits 10 n).head? ≠ some '0' := by decide
      exact all n small positive
    · rw [Nat.toDigits_of_base_le (by decide) (by omega), List.head?_append_of_ne_nil _ Nat.toDigits_ne_nil]
      exact ih (n / 10) (by omega) (by omega)

theorem dropDigits_of_isDigit (digits : ∀ c ∈ chars, c.isDigit) : dropDigits chars = [] := by
  rw [dropDigits, List.dropWhile_eq_nil_iff]
  intro c member
  rw [Text.digit?_of_isDigit (digits c member), Option.isSome_some]

theorem afterWhole?_toDigits (n : Nat) : afterWhole? (Nat.toDigits 10 n) = some [] := by
  have digits : ∀ c ∈ Nat.toDigits 10 n, c.isDigit := fun _ => Text.isDigit_of_mem_toDigits
  rcases Nat.eq_zero_or_pos n with rfl | positive
  · rfl
  have first := head?_toDigits positive
  obtain ⟨c, rest, shape⟩ := List.exists_cons_of_ne_nil (Nat.toDigits_ne_nil (b := 10) (n := n))
  rw [shape] at first digits ⊢
  obtain ⟨digit, digits⟩ := List.forall_mem_cons.mp digits
  unfold afterWhole?
  split
  · simp_all
  · rw [afterDigits?, Text.digit?_of_isDigit digit, dropDigits_of_isDigit digits]
    rfl

theorem toList_toString_ofNat (n : Nat) : (toString (n : Int)).toList = Nat.toDigits 10 n := by
  change (toString n).toList = _
  rw [Nat.toString_eq_ofList_toDigits, String.toList_ofList]

theorem toList_toString_negSucc (n : Nat) :
    (toString (Int.negSucc n)).toList = '-' :: Nat.toDigits 10 (n + 1) := by
  change ("-" ++ toString (n + 1)).toList = _
  rw [String.toList_append, Nat.toString_eq_ofList_toDigits, String.toList_ofList]
  simp

theorem minus_not_mem_toDigits (n : Nat) : '-' ∉ Nat.toDigits 10 n := fun member =>
  absurd (Text.isDigit_of_mem_toDigits member) (by decide)

theorem isNumber_toString (n : Int) : isNumber (toString n).toList := by
  have whole (n : Nat) : (afterWhole? (Nat.toDigits 10 n) >>= afterFraction? >>= afterExponent?) =
      some [] := by
    rw [afterWhole?_toDigits]
    rfl
  cases n with
  | ofNat n =>
    change isNumber (toString (n : Int)).toList
    rw [toList_toString_ofNat]
    unfold isNumber
    split
    · rename_i rest shape
      exact absurd (shape ▸ List.mem_cons_self) (minus_not_mem_toDigits n)
    · simp only [whole]
      rfl
  | negSucc n =>
    rw [toList_toString_negSucc]
    simp only [isNumber, whole]
    rfl

theorem wholeNumber?_toString (n : Int) : wholeNumber? (toString n).toList = some n := by
  cases n with
  | ofNat n =>
    change wholeNumber? (toString (n : Int)).toList = _
    rw [toList_toString_ofNat]
    unfold wholeNumber?
    split
    · rename_i rest shape
      exact absurd (shape ▸ List.mem_cons_self) (minus_not_mem_toDigits n)
    · rw [Text.digits?_toDigits, Option.map_some]
  | negSucc n =>
    rw [toList_toString_negSucc]
    simp only [wholeNumber?, Text.digits?_toDigits, Option.bind_some]
    rfl

theorem atom?_of_isNumber (number : isNumber chars) : atom? chars = some (.number chars) := by
  have other {word : List Char} (wrong : isNumber word = false) : chars ≠ word := by
    rintro rfl
    simp [wrong] at number
  rw [atom?, if_neg (other (by decide)), if_neg (other (by decide)), if_neg (other (by decide)),
    if_pos number]

theorem isAtomic_toString (n : Int) : ∀ c ∈ (toString n).toList, isAtomic c := by
  have digits (n : Nat) : ∀ c ∈ Nat.toDigits 10 n, isAtomic c := fun _ member =>
    isAtomic_of_isDigit (Text.isDigit_of_mem_toDigits member)
  cases n with
  | ofNat n =>
    change ∀ c ∈ (toString (n : Int)).toList, isAtomic c
    rw [toList_toString_ofNat]
    exact digits n
  | negSucc n =>
    rw [toList_toString_negSucc]
    exact List.forall_mem_cons.mpr ⟨by decide, digits (n + 1)⟩

/-! ## Structure -/

mutual

/-- The structure of the written form of a value. -/
def toTree : Json → Tree
  | .null => .null
  | .bool b => .bool b
  | .number n => .number (toString n).toList
  | .float _ => .null
  | .text s => .quoted (pieces s)
  | .array items => .array (toTrees items)
  | .fields entries => .object (toEntries entries)

/-- The structures of items. -/
def toTrees : List Json → List Tree
  | [] => []
  | item :: rest => toTree item :: toTrees rest

/-- The structures of fields. -/
def toEntries : List (String × Json) → List (List Piece × Tree)
  | [] => []
  | (key, value) :: rest => (pieces key, toTree value) :: toEntries rest

end

/-- A value may come next. -/
inductive TakesValue : Need → Prop
  | value : TakesValue .value
  | item : TakesValue .item

/-- Where a value may come next, these tokens are the tree. -/
def IsTree (tokens : List Token) (tree : Tree) : Prop :=
  ∀ stack need rest, TakesValue need →
    treeFrom stack need (tokens ++ rest) = treeFrom stack (.next tree) rest

def Reads (text : String) (tree : Tree) : Prop :=
  ∃ tokens, CutInto text tokens ∧ IsTree tokens tree

def ReadsField (text : String) (entry : List Piece × Tree) : Prop :=
  ∃ tokens, CutInto text (.quoted entry.1 :: .colon :: tokens) ∧ IsTree tokens entry.2

theorem Reads.tree? (reads : Reads text tree) : tree? text.toList = some tree := by
  obtain ⟨tokens, cut, built⟩ := reads
  have whole := cut [] (by simp [Marked])
  have taken := built [] .value [] .value
  rw [List.append_nil] at whole taken
  rw [Json.tree?, Json.tokens, whole]
  exact (congrArg (treeFrom [] .value) (List.append_nil tokens)).trans taken

theorem treeFrom_atom (takes : TakesValue need) (leaf : atom? chars = some tree) :
    treeFrom stack need (.atom chars :: rest) = treeFrom stack (.next tree) rest := by
  cases takes <;> cases stack <;> simp only [treeFrom, leaf]

theorem reads_atom (some : text ≠ "") (atomic : ∀ c ∈ text.toList, isAtomic c)
    (leaf : atom? text.toList = .some tree) : Reads text tree :=
  ⟨_, cutInto_atom some atomic, fun _ _ _ takes => treeFrom_atom takes leaf⟩

theorem reads_null : Reads "null" .null :=
  reads_atom (by decide) (List.all_eq_true.mp (by decide)) rfl

theorem reads_number (n : Int) : Reads (toString n) (.number (toString n).toList) := by
  have number := isNumber_toString n
  refine reads_atom (fun empty => ?_) (isAtomic_toString n) (atom?_of_isNumber number)
  rw [empty] at number
  exact absurd number (by decide)

theorem reads_writtenText (s : String) : Reads (writtenText s) (.quoted (pieces s)) := by
  refine ⟨_, cutInto_writtenText s, fun stack need rest takes => ?_⟩
  cases takes <;> cases stack <;> rfl

theorem treeFrom_openArray (takes : TakesValue need) : treeFrom stack need (.openArray :: rest) =
    treeFrom (.array [] :: stack) .item rest := by
  cases takes <;> cases stack <;> rfl

theorem treeFrom_openObject (takes : TakesValue need) : treeFrom stack need (.openObject :: rest) =
    treeFrom stack .firstKey rest := by
  cases takes <;> cases stack <;> rfl

theorem treeFrom_array_comma (before : List Tree) : treeFrom (.array before :: stack) (.next tree)
    (.comma :: rest) = treeFrom (.array (tree :: before) :: stack) .value rest := rfl

theorem treeFrom_array_close (before : List Tree) : treeFrom (.array before :: stack) (.next tree)
    (.closeArray :: rest) = treeFrom stack (.next (.array (tree :: before).reverse)) rest := rfl

theorem comma : ",".toList = [','] := by decide

/-- Items between commas, in an array that holds others already. -/
theorem exists_items (each : List.Forall₂ Reads (text :: texts) (tree :: trees)) :
    ∃ tokens, CutInto (",".intercalate (text :: texts)) tokens ∧
      ∀ before stack need rest, TakesValue need →
        treeFrom (.array before :: stack) need (tokens ++ .closeArray :: rest) =
          treeFrom stack (.next (.array (before.reverse ++ tree :: trees))) rest := by
  induction texts generalizing text tree trees with
  | nil =>
    obtain ⟨⟨tokens, cut, built⟩, none⟩ := List.forall₂_cons.mp each
    obtain rfl := List.forall₂_nil_left_iff.mp none
    refine ⟨tokens, by rwa [String.intercalate_singleton], fun before stack need rest takes => ?_⟩
    rw [built _ _ _ takes, treeFrom_array_close, List.reverse_cons]
  | cons next texts ih =>
    obtain ⟨⟨tokens, cut, built⟩, later⟩ := List.forall₂_cons.mp each
    cases trees with
    | nil => cases later
    | cons second trees =>
      obtain ⟨more, cutMore, builtMore⟩ := ih later
      refine ⟨tokens ++ .comma :: more, ?_, fun before stack need rest takes => ?_⟩
      · rw [String.intercalate_cons_cons]
        exact cut.between comma rfl cutMore
      · rw [List.append_assoc, built _ _ _ takes, List.cons_append, treeFrom_array_comma,
          builtMore _ _ _ _ .value, List.reverse_cons, List.append_assoc, List.singleton_append]

theorem reads_array (each : List.Forall₂ Reads texts trees) :
    Reads ("[" ++ ",".intercalate texts ++ "]") (.array trees) := by
  have opens : "[".toList = ['['] := by decide
  have closes : "]".toList = [']'] := by decide
  cases each with
  | nil =>
    refine ⟨[.openArray, .closeArray], ?_, fun stack need rest takes => ?_⟩
    · exact (cutInto_mark closes rfl).mark opens rfl
    · exact treeFrom_openArray takes
  | cons first later =>
    obtain ⟨tokens, cut, built⟩ := exists_items (.cons first later)
    refine ⟨.openArray :: tokens ++ [.closeArray], cut.enclosed opens rfl closes rfl,
      fun stack need rest takes => ?_⟩
    rw [List.append_assoc, List.singleton_append, List.cons_append, treeFrom_openArray takes]
    exact built [] stack .item rest .item

theorem reads_field {key : String} (reads : Reads text tree) :
    ReadsField (writtenText key ++ ":" ++ text) (pieces key, tree) := by
  obtain ⟨tokens, cut, built⟩ := reads
  exact ⟨tokens, (cutInto_writtenText key).between (by decide : ":".toList = [':']) rfl cut, built⟩

/-- A key may come next, in an object that holds these fields. -/
inductive TakesKey : List (List Piece × Tree) → Need → Prop
  | first : TakesKey [] .firstKey
  | later {before : List (List Piece × Tree)} : TakesKey before (.key before)

theorem treeFrom_key {before : List (List Piece × Tree)} {key : List Piece}
    (takes : TakesKey before need) : treeFrom stack need (.quoted key :: .colon :: rest) =
      treeFrom (.object before key :: stack) .value rest := by
  cases takes <;> cases stack <;> rfl

theorem treeFrom_object_comma (before : List (List Piece × Tree)) (key : List Piece) :
    treeFrom (.object before key :: stack) (.next tree) (.comma :: rest) =
      treeFrom stack (.key ((key, tree) :: before)) rest := rfl

theorem treeFrom_object_close (before : List (List Piece × Tree)) (key : List Piece) :
    treeFrom (.object before key :: stack) (.next tree) (.closeObject :: rest) =
      treeFrom stack (.next (.object ((key, tree) :: before).reverse)) rest := rfl

/-- Fields between commas, in an object that holds others already. -/
theorem exists_fields (each : List.Forall₂ ReadsField (text :: texts) (entry :: entries)) :
    ∃ tokens, CutInto (",".intercalate (text :: texts)) tokens ∧
      ∀ before stack need rest, TakesKey before need →
        treeFrom stack need (tokens ++ .closeObject :: rest) =
          treeFrom stack (.next (.object (before.reverse ++ entry :: entries))) rest := by
  induction texts generalizing text entry entries with
  | nil =>
    obtain ⟨⟨tokens, cut, built⟩, none⟩ := List.forall₂_cons.mp each
    obtain rfl := List.forall₂_nil_left_iff.mp none
    refine ⟨_, by rwa [String.intercalate_singleton], fun before stack need rest takes => ?_⟩
    rw [List.cons_append, List.cons_append, treeFrom_key takes, built _ _ _ .value,
      treeFrom_object_close, List.reverse_cons]
  | cons next texts ih =>
    obtain ⟨⟨tokens, cut, built⟩, later⟩ := List.forall₂_cons.mp each
    cases entries with
    | nil => cases later
    | cons second entries =>
      obtain ⟨more, cutMore, builtMore⟩ := ih later
      refine ⟨.quoted entry.1 :: .colon :: tokens ++ .comma :: more, ?_,
        fun before stack need rest takes => ?_⟩
      · rw [String.intercalate_cons_cons]
        exact cut.between comma rfl cutMore
      · rw [List.append_assoc, List.cons_append, List.cons_append, treeFrom_key takes,
          built _ _ _ .value, List.cons_append, treeFrom_object_comma, builtMore _ _ _ _ .later,
          List.reverse_cons, List.append_assoc, List.singleton_append]

theorem reads_object (each : List.Forall₂ ReadsField texts entries) :
    Reads ("\x7b" ++ ",".intercalate texts ++ "\x7d") (.object entries) := by
  have opens : "\x7b".toList = ['{'] := by decide
  have closes : "\x7d".toList = ['}'] := by decide
  cases each with
  | nil =>
    refine ⟨[.openObject, .closeObject], ?_, fun stack need rest takes => ?_⟩
    · exact (cutInto_mark closes rfl).mark opens rfl
    · rw [List.cons_append, treeFrom_openObject takes]
      cases stack <;> rfl
  | cons first later =>
    obtain ⟨tokens, cut, built⟩ := exists_fields (.cons first later)
    refine ⟨.openObject :: tokens ++ [.closeObject], cut.enclosed opens rfl closes rfl,
      fun stack need rest takes => ?_⟩
    rw [List.append_assoc, List.singleton_append, List.cons_append, treeFrom_openObject takes]
    exact built [] stack .firstKey rest .first

mutual

/-- The written form of a value is read as its structure. -/
theorem reads_written : ∀ value : Json, Reads (written value) (toTree value)
  | .null => reads_null
  | .bool true => reads_atom (by decide) (List.all_eq_true.mp (by decide)) rfl
  | .bool false => reads_atom (by decide) (List.all_eq_true.mp (by decide)) rfl
  | .number n => reads_number n
  | .float _ => reads_null
  | .text s => reads_writtenText s
  | .array items => reads_array (reads_writtenItems items)
  | .fields entries => reads_object (reads_writtenFields entries)

theorem reads_writtenItems :
    ∀ items : List Json, List.Forall₂ Reads (writtenItems items) (toTrees items)
  | [] => .nil
  | item :: rest => .cons (reads_written item) (reads_writtenItems rest)

theorem reads_writtenFields : ∀ entries : List (String × Json),
    List.Forall₂ ReadsField (writtenFields entries) (toEntries entries)
  | [] => .nil
  | (_, value) :: rest => .cons (reads_field (reads_written value)) (reads_writtenFields rest)

end

theorem tree?_written (value : Json) : tree? (written value).toList = some (toTree value) :=
  (reads_written value).tree?

/-! ## Values -/

theorem insertField_eq (key : String) (value : Json) (fields : List (String × Json)) :
    insertField key value fields = insertEntry key value fields := by
  induction fields with
  | nil => rfl
  | cons entry rest ih => rw [insertField, insertEntry, ih]

/-- An object keeps fields that are in key order as they are. -/
theorem object_of_ascending (ascending : Ascending fields) : object fields = .fields fields := by
  have inserted : object fields = .fields (KeyMap.ofList fields).toList := by
    refine congrArg Json.fields ?_
    change fields.foldl _ KeyMap.empty.toList = (fields.foldl _ KeyMap.empty).toList
    exact List.foldl_hom KeyMap.toList fun m entry => insertField_eq entry.1 entry.2 m.toList
  rw [inserted, KeyMap.toList_ofList ascending]

/-- What reading makes of a value where arrays and objects may stand inside one another up to a depth. -/
def within (depth : Nat) (value : Json) : Option Json :=
  if value.nesting < depth then some value else none

theorem ofItems?_toTrees (each : ∀ item ∈ items, ofTree? depth (toTree item) = within depth item)
    (room : 0 < depth) :
    ofItems? depth (toTrees items) = if nestingOfItems items < depth then some items else none := by
  induction items with
  | nil => simp [toTrees, ofItems?, nestingOfItems, room]
  | cons item rest ih =>
    obtain ⟨first, each⟩ := List.forall_mem_cons.mp each
    rw [toTrees, ofItems?, first, ih each, nestingOfItems, within]
    simp only [Nat.max_lt]
    by_cases here : item.nesting < depth <;> by_cases later : nestingOfItems rest < depth <;>
      simp [here, later]

theorem ofEntries?_toEntries
    (each : ∀ entry ∈ fields, ofTree? depth (toTree entry.2) = within depth entry.2)
    (room : 0 < depth) : ofEntries? depth (toEntries fields) =
      if nestingOfFields fields < depth then some fields else none := by
  induction fields with
  | nil => simp [toEntries, ofEntries?, nestingOfFields, room]
  | cons entry rest ih =>
    obtain ⟨first, each⟩ := List.forall_mem_cons.mp each
    rw [toEntries, ofEntries?, string?_pieces, Option.bind_some, first, ih each, nestingOfFields,
      within]
    simp only [Nat.max_lt]
    by_cases here : entry.2.nesting < depth <;> by_cases later : nestingOfFields rest < depth <;>
      simp [here, later]

/-- A value comes back from its structure if there is room for its arrays and objects. -/
theorem Storable.ofTree?_toTree (storable : Storable value) (room : 0 < depth) :
    ofTree? depth (toTree value) = within depth value := by
  induction storable generalizing depth with
  | null | bool => exact (if_pos room).symm
  | text s =>
    rw [toTree, ofTree?, string?_pieces, Option.map_some]
    exact (if_pos room).symm
  | @number n low high =>
    have fits : (-0x8000000000000000 ≤ n && n ≤ 0xFFFFFFFFFFFFFFFF) = true := by simp [low, high]
    rw [toTree, ofTree?, integer64?, wholeNumber?_toString, Option.filter_some, if_pos fits,
      Option.map_some]
    exact (if_pos room).symm
  | @array items _ ih =>
    rw [toTree, within, nesting]
    match depth with
    | 1 => rfl
    | depth + 2 =>
      have inside := ofItems?_toTrees (fun item member => ih item member (Nat.succ_pos depth))
        (Nat.succ_pos depth)
      simp only [ofTree?, inside, Nat.add_lt_add_iff_right]
      split_ifs <;> rfl
  | @fields entries ascending _ ih =>
    rw [toTree, within, nesting]
    match depth with
    | 1 => rfl
    | depth + 2 =>
      have inside := ofEntries?_toEntries (fun entry member => ih entry member (Nat.succ_pos depth))
        (Nat.succ_pos depth)
      have kept := object_of_ascending ascending
      simp only [ofTree?, inside, Nat.add_lt_add_iff_right]
      split_ifs <;> simp [kept]

end CommandVerbs.Json
