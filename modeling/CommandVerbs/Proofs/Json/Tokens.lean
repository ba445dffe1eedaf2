import CommandVerbs.Json.Reader
import CommandVerbs.Proofs.Json.Writing

/-! Written JSON falls into its tokens again. An atom ends only where something else comes, so what is
said of a written part holds before marks. -/
namespace CommandVerbs.Json

/-- The next character, if there is one, is a mark. -/
def Marked (rest : List Char) : Prop := ∀ c ∈ rest.head?, (punctuation? c).isSome

/-- Before a mark, the text is cut into these tokens. -/
def CutInto (text : String) (tokens : List Token) : Prop :=
  ∀ rest, Marked rest →
    tokensFrom .nothing (text.toList ++ rest) = (tokensFrom .nothing rest).map (tokens ++ ·)

/-- What a character of a text is written as: a control without a letter of its own by its number. -/
def pieceOf (c : Char) : Piece :=
  if c.toNat < 0x20 ∧ c ∉ ['\x08', '\t', '\n', '\x0c', '\r'] then .unit c.toNat else .char c

def pieces (s : String) : List Piece := s.toList.map pieceOf

variable {c : Char} {chars rest : List Char} {token : Token} {s t : String}
  {ts us : List Token} {before : List Piece}

/-! ## Marks -/

theorem marked_cons (mark : punctuation? c = some token) (rest : List Char) : Marked (c :: rest) := by
  intro d first
  obtain rfl : c = d := by simpa using first
  rw [mark, Option.isSome_some]

/-- A mark is neither blank nor a quote. -/
theorem solid_of_mark (mark : punctuation? c = some token) : isSpace c = false ∧ c ≠ '"' := by
  unfold punctuation? at mark
  split at mark
  case h_7 => contradiction
  all_goals decide

theorem tokensFrom_mark (mark : punctuation? c = some token) (rest : List Char) :
    tokensFrom .nothing (c :: rest) = (tokensFrom .nothing rest).map (token :: ·) := by
  obtain ⟨solid, unquoted⟩ := solid_of_mark mark
  simp [tokensFrom, solid, unquoted, mark]

/-- A part that is followed by a mark, with whatever comes after it. -/
theorem CutInto.append (first : CutInto s ts) (shape : t.toList = c :: chars)
    (mark : punctuation? c = some token) (second : CutInto t us) : CutInto (s ++ t) (ts ++ us) := by
  intro rest next
  have marked : Marked (t.toList ++ rest) := by
    rw [shape, List.cons_append]
    exact marked_cons mark _
  rw [String.toList_append, List.append_assoc, first _ marked, second rest next, Option.map_map]
  simp [Function.comp_def]

theorem CutInto.mark (shape : s.toList = [c]) (mark : punctuation? c = some token)
    (cut : CutInto t us) : CutInto (s ++ t) (token :: us) := by
  intro rest next
  rw [String.toList_append, shape, List.singleton_append, List.cons_append, tokensFrom_mark mark,
    cut rest next, Option.map_map]
  rfl

theorem cutInto_mark (shape : s.toList = [c]) (mark : punctuation? c = some token) :
    CutInto s [token] := by
  intro rest _
  rw [shape, List.singleton_append, tokensFrom_mark mark]
  rfl

/-- Two parts with a mark between them. -/
theorem CutInto.between {m : String} (first : CutInto s ts) (shape : m.toList = [c])
    (mark : punctuation? c = some token) (second : CutInto t us) :
    CutInto (s ++ m ++ t) (ts ++ token :: us) := by
  have start : (m ++ t).toList = c :: t.toList := by
    rw [String.toList_append, shape, List.singleton_append]
  rw [String.append_assoc]
  exact first.append start mark (second.mark shape mark)

/-- A part between two marks. -/
theorem CutInto.enclosed {left right : String} {d : Char} {closing : Token} (inside : CutInto s ts)
    (opens : left.toList = [c]) (opening : punctuation? c = some token)
    (closes : right.toList = [d]) (close : punctuation? d = some closing) :
    CutInto (left ++ s ++ right) (token :: ts ++ [closing]) :=
  (inside.mark opens opening).append closes close (cutInto_mark closes close)

/-! ## Atoms -/

/-- A character that an atom goes on with. -/
def isAtomic (c : Char) : Bool :=
  !isSpace c && c != '"' && (punctuation? c).isNone

theorem isAtomic_iff : isAtomic c ↔ isSpace c = false ∧ c ≠ '"' ∧ punctuation? c = none := by
  simp [isAtomic, and_assoc]

theorem tokensFrom_atom (atomic : ∀ c ∈ chars, isAtomic c) (marked : Marked rest)
    (before : List Char) : tokensFrom (.atom before) (chars ++ rest) =
      (tokensFrom .nothing rest).map (.atom (before.reverse ++ chars) :: ·) := by
  induction chars generalizing before with
  | nil =>
    rw [List.nil_append, List.append_nil]
    cases rest with
    | nil => rfl
    | cons c rest =>
      obtain ⟨token, mark⟩ := Option.isSome_iff_exists.mp (marked c rfl)
      obtain ⟨solid, unquoted⟩ := solid_of_mark mark
      rw [tokensFrom_mark mark, Option.map_map]
      simp [tokensFrom, solid, unquoted, mark, Function.comp_def]
  | cons c more ih =>
    obtain ⟨here, atomic⟩ := List.forall_mem_cons.mp atomic
    obtain ⟨solid, unquoted, unmarked⟩ := isAtomic_iff.mp here
    have next := ih atomic (c :: before)
    simpa [tokensFrom, solid, unquoted, unmarked] using next

theorem cutInto_atom (some : s ≠ "") (atomic : ∀ c ∈ s.toList, isAtomic c) :
    CutInto s [.atom s.toList] := by
  intro rest marked
  obtain ⟨c, more, shape⟩ := List.exists_cons_of_ne_nil (mt String.toList_eq_nil_iff.mp some)
  rw [shape] at atomic ⊢
  obtain ⟨here, atomic⟩ := List.forall_mem_cons.mp atomic
  obtain ⟨solid, unquoted, unmarked⟩ := isAtomic_iff.mp here
  have next := tokensFrom_atom atomic marked [c]
  simpa [tokensFrom, solid, unquoted, unmarked] using next

theorem isAtomic_of_isDigit (digit : c.isDigit) : isAtomic c := by
  have range := Text.toNat_of_isDigit digit
  have unmarked : punctuation? c = none := by
    unfold punctuation?
    split
    case h_7 => rfl
    all_goals simp at range
  have unquoted : c ≠ '"' := by
    rintro rfl
    simp at range
  have solid : isSpace c = false := by
    unfold isSpace
    simp only [Bool.or_eq_false_iff, beq_eq_false_iff_ne]
    refine ⟨⟨⟨?_, ?_⟩, ?_⟩, ?_⟩ <;> rintro rfl <;> simp at range
  exact isAtomic_iff.mpr ⟨solid, unquoted, unmarked⟩

/-! ## Quoted texts -/

theorem hexDigit?_digitChar : ∀ d < 16, hexDigit? (Nat.digitChar d) = some d := by decide

theorem toList_unicodeEscape (control : c.toNat < 0x20) : (unicodeEscape c).toList =
    ['\\', 'u', '0', '0', Nat.digitChar (c.toNat / 16), Nat.digitChar (c.toNat % 16)] := by
  have all : ∀ n < 0x20, (unicodeEscape (Char.ofNat n)).toList =
      ['\\', 'u', '0', '0', Nat.digitChar (n / 16), Nat.digitChar (n % 16)] := by decide +kernel
  simpa using all c.toNat control

theorem tokensFrom_code (small : c.toNat < 0x20) (before : List Piece) (rest : List Char) :
    tokensFrom (.quoted before) ((unicodeEscape c).toList ++ rest) =
      tokensFrom (.quoted (.unit c.toNat :: before)) rest := by
  have high := hexDigit?_digitChar (c.toNat / 16) (by omega)
  have low := hexDigit?_digitChar (c.toNat % 16) (by omega)
  have zero : hexDigit? '0' = some 0 := rfl
  have whole : c.toNat / 16 * 16 + c.toNat % 16 = c.toNat := Nat.div_add_mod' c.toNat 16
  rw [toList_unicodeEscape small]
  simp [tokensFrom, high, low, zero, whole]

theorem tokensFrom_escapedChar (c : Char) (before : List Piece) (rest : List Char) :
    tokensFrom (.quoted before) ((escapedChar c).toList ++ rest) =
      tokensFrom (.quoted (pieceOf c :: before)) rest := by
  unfold escapedChar
  split
  case h_8 quote backslash back tab feed page carriage =>
    have unnamed : c ∉ ['\x08', '\t', '\n', '\x0c', '\r'] := by
      simp only [List.mem_cons, List.not_mem_nil, or_false, not_or]
      exact ⟨back, tab, feed, page, carriage⟩
    by_cases control : c.toNat < 0x20
    · rw [if_pos control, tokensFrom_code control, pieceOf, if_pos ⟨control, unnamed⟩]
    · have plain : pieceOf c = .char c := if_neg fun both => control both.1
      rw [if_neg control, Char.toString_eq_singleton, String.toList_singleton, List.singleton_append,
        tokensFrom, if_neg quote, if_neg backslash, if_neg control, plain]
  all_goals rfl

theorem tokensFrom_quoted (chars : List Char) (before : List Piece) (rest : List Char) :
    tokensFrom (.quoted before) ((String.join (chars.map escapedChar)).toList ++ '"' :: rest) =
      (tokensFrom .nothing rest).map (.quoted (before.reverse ++ chars.map pieceOf) :: ·) := by
  induction chars generalizing before with
  | nil => simp [tokensFrom]
  | cons c more ih =>
    rw [List.map_cons, String.join_cons, String.toList_append, List.append_assoc,
      tokensFrom_escapedChar, ih]
    simp

theorem cutInto_writtenText (s : String) : CutInto (writtenText s) [.quoted (pieces s)] := by
  intro rest _
  have inside := tokensFrom_quoted s.toList [] rest
  simpa [writtenText, tokensFrom, isSpace, pieces] using inside

theorem characters?_pieces (chars : List Char) : characters? (chars.map pieceOf) = some chars := by
  induction chars with
  | nil => rfl
  | cons c rest ih =>
    rw [List.map_cons, pieceOf]
    split
    · rename_i control
      have low : c.toNat < 0xD800 ∨ 0xDFFF < c.toNat := .inl (by omega)
      rw [characters?.eq_def]
      simp only [if_pos low, ih, Char.ofNat_toNat, Option.map_some]
    · rw [characters?, ih, Option.map_some]

theorem string?_pieces (s : String) : string? (pieces s) = some s := by
  rw [string?, pieces, characters?_pieces, Option.map_some, String.ofList_toList]

end CommandVerbs.Json
