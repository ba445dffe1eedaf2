import Mathlib.Data.List.Infix
import CommandVerbs.Proofs.Text.Trimming
import CommandVerbs.Text.Split

/-! Texts that are put together from lines, or from a key and a value, come apart again. -/
namespace CommandVerbs.Text

variable {sep : Char} {s line piece before after rest : List Char}

theorem segments_eq_splitOn (sep : Char) (s : List Char) : segments sep s = s.splitOn sep := by
  induction s with
  | nil => rfl
  | cons c rest ih =>
    obtain ⟨piece, pieces, shape⟩ := List.exists_cons_of_ne_nil (List.splitOn_ne_nil sep rest)
    have next : (c :: rest).splitOn sep = if c == sep then [] :: rest.splitOn sep
        else (rest.splitOn sep).modifyHead (c :: ·) := List.splitOnP_cons_eq_if_modifyHead c rest
    rw [segments, ih, next, shape]
    by_cases here : c = sep <;> simp [here]

theorem segments_append (apart : sep ∉ line) (rest : List Char) :
    segments sep (line ++ sep :: rest) = line :: segments sep rest := by
  rw [segments_eq_splitOn, segments_eq_splitOn, List.splitOn,
    List.splitOnP_append_cons line rest (by simp), ← List.splitOn, List.splitOn_eq_singleton apart]
  rfl

theorem not_mem_of_mem_segments (member : piece ∈ segments sep s) : sep ∉ piece := by
  induction s generalizing piece with
  | nil => simp_all [segments]
  | cons c rest ih =>
    rw [segments] at member
    by_cases here : c = sep
    · rw [if_pos here] at member
      rcases List.mem_cons.mp member with rfl | later
      · exact List.not_mem_nil
      · exact ih later
    rw [if_neg here] at member
    cases shape : segments sep rest with
    | nil => simp_all [Ne.symm here]
    | cons first others =>
      rw [shape] at member ih
      rcases List.mem_cons.mp member with rfl | later
      · simp [Ne.symm here, ih List.mem_cons_self]
      · exact ih (List.mem_cons_of_mem _ later)

theorem segments_append_cons (sep : Char) (s rest : List Char) :
    segments sep (s ++ sep :: rest) = segments sep s ++ segments sep rest := by
  simp only [segments_eq_splitOn]
  exact List.splitOnP_append_cons s rest (by simp)

theorem segments_ne_nil (sep : Char) (s : List Char) : segments sep s ≠ [] := by
  rw [segments_eq_splitOn]
  exact List.splitOn_ne_nil sep s

theorem intercalate_segments (sep : Char) (s : List Char) : [sep].intercalate (segments sep s) = s := by
  rw [segments_eq_splitOn]
  exact List.intercalate_splitOn sep

theorem segments_intercalate {pieces : List (List Char)} (some : pieces ≠ [])
    (apart : ∀ piece ∈ pieces, sep ∉ piece) : segments sep ([sep].intercalate pieces) = pieces := by
  rw [segments_eq_splitOn]
  exact List.splitOn_intercalate sep apart some

/-- Texts that are joined by the separator are cut where each of them is. -/
theorem segments_intercalate_flatMap {texts : List (List Char)} (some : texts ≠ []) :
    segments sep ([sep].intercalate texts) = texts.flatMap (segments sep) := by
  induction texts with
  | nil => contradiction
  | cons text rest ih =>
    cases rest with
    | nil => simp
    | cons next rest =>
      rw [List.intercalate_cons_cons, List.append_assoc, List.singleton_append, segments_append_cons,
        ih (List.cons_ne_nil _ _), List.flatMap_cons, List.flatMap_cons, List.flatMap_cons]

theorem segments_of_not_mem (apart : sep ∉ s) : segments sep s = [s] := by
  rw [segments_eq_splitOn, List.splitOn_eq_singleton apart]

theorem splitAt_of_not_mem {text : String} (apart : sep ∉ text.toList) : splitAt sep text = [text] := by
  rw [splitAt, segments_of_not_mem apart, List.map_singleton, String.ofList_toList]

theorem splitAt_joined {texts : List String} (some : texts ≠ []) :
    splitAt sep ((String.singleton sep).intercalate texts) = texts.flatMap (splitAt sep) := by
  rw [splitAt, String.toList_intercalate, String.toList_singleton,
    segments_intercalate_flatMap (by simpa using some), List.flatMap_map, List.map_flatMap]
  rfl

/-- A text is cut into the pieces of another and further ones if it is the other, or goes on from there
with a separator. -/
theorem segments_prefix_iff {t : List Char} :
    segments sep s <+: segments sep t ↔ t = s ∨ s ++ [sep] <+: t := by
  constructor
  · rintro ⟨more, whole⟩
    by_cases none : more = []
    · rw [none, List.append_nil] at whole
      left
      rw [← intercalate_segments sep t, ← whole, intercalate_segments]
    · right
      have apart : ∀ piece ∈ more, sep ∉ piece := fun piece member =>
        not_mem_of_mem_segments (whole ▸ List.mem_append_right _ member)
      -- the text that goes on with the further pieces has the same pieces as `t`, so it is `t`
      have same : segments sep (s ++ sep :: [sep].intercalate more) = segments sep t := by
        rw [segments_append_cons, segments_intercalate none apart, whole]
      have text := congrArg ([sep].intercalate ·) same
      simp only [intercalate_segments] at text
      exact ⟨[sep].intercalate more, by rw [← text]; simp⟩
  · rintro (rfl | ⟨rest, rfl⟩)
    · exact List.prefix_refl _
    · rw [List.append_assoc, List.singleton_append, segments_append_cons]
      exact List.prefix_append _ _

theorem splitAt_prefix_iff {s t : String} :
    splitAt sep s <+: splitAt sep t ↔ t = s ∨ s.toList ++ [sep] <+: t.toList := by
  have texts : ∀ l m : List (List Char),
      l.map String.ofList <+: m.map String.ofList ↔ l <+: m := by
    intro l m
    constructor
    · intro h
      simpa [List.map_map, Function.comp_def] using h.map String.toList
    · intro h
      exact h.map String.ofList
  rw [splitAt, splitAt, texts, segments_prefix_iff, String.toList_inj]

theorem splitAt_injective (sep : Char) {s t : String} (same : splitAt sep s = splitAt sep t) :
    s = t := by
  have pieces := congrArg (List.map String.toList) same
  simp only [splitAt, List.map_map, Function.comp_def, String.toList_ofList, List.map_id'] at pieces
  have text := congrArg ([sep].intercalate ·) pieces
  simp only [intercalate_segments] at text
  exact String.toList_injective text

/-- What a line loses at its end is blank. -/
theorem exists_dropReturn_append (line : List Char) :
    ∃ lost, (∀ c ∈ lost, isBlank c) ∧ dropReturn line ++ lost = line := by
  unfold dropReturn
  split
  · rename_i rest shape
    refine ⟨['\r'], List.forall_mem_singleton.mpr (by decide), ?_⟩
    rw [← List.reverse_reverse line, shape, List.reverse_cons]
  · exact ⟨[], by simp, List.append_nil line⟩

theorem trimChars_dropReturn (line : List Char) : trimChars (dropReturn line) = trimChars line := by
  obtain ⟨lost, blank, whole⟩ := exists_dropReturn_append line
  rw [← trimChars_append_blanks (dropReturn line) blank, whole]

/-- A line that does not end in a blank loses nothing. -/
theorem dropReturn_of_solid (solid : ∀ c ∈ line.getLast?, isBlank c = false) :
    dropReturn line = line := by
  unfold dropReturn
  split
  · rename_i rest shape
    have last : line.getLast? = some '\r' := by
      rw [List.getLast?_eq_head?_reverse, shape, List.head?_cons]
    exact absurd (solid '\r' last) (by decide)
  · rfl

theorem lineChars_append (apart : '\n' ∉ line) (rest : List Char) :
    lineChars (line ++ '\n' :: rest) = dropReturn line :: lineChars rest := by
  obtain ⟨first, others, shape⟩ := List.exists_cons_of_ne_nil (segments_ne_nil '\n' rest)
  simp only [lineChars, segments_append apart, shape, List.dropLast_cons_cons, List.map_cons,
    List.getLast?_cons_cons]
  split <;> rfl

theorem not_mem_of_mem_lineChars (member : line ∈ lineChars s) : '\n' ∉ line := by
  have closed : ∀ l ∈ (segments '\n' s).dropLast.map dropReturn, '\n' ∉ l := by
    intro l member
    obtain ⟨piece, inside, rfl⟩ := List.mem_map.mp member
    have apart := not_mem_of_mem_segments (List.mem_of_mem_dropLast inside)
    obtain ⟨lost, _, whole⟩ := exists_dropReturn_append piece
    exact fun within => apart (whole ▸ List.mem_append_left lost within)
  simp only [lineChars] at member
  split at member
  · exact closed line member
  · exact closed line member
  · rename_i last found
    rcases List.mem_append.mp member with early | final
    · exact closed line early
    · rw [List.mem_singleton.mp final]
      exact not_mem_of_mem_segments (List.mem_of_getLast? found)

theorem cut_append (apart : sep ∉ before) (after : List Char) :
    cut sep (before ++ sep :: after) = some (before, after) := by
  induction before with
  | nil => simp [cut]
  | cons c rest ih =>
    obtain ⟨different, apart⟩ := List.ne_and_not_mem_of_not_mem_cons apart
    simp [cut, Ne.symm different, ih apart]

theorem cut_eq_some (found : cut sep s = some (before, after)) :
    s = before ++ sep :: after ∧ sep ∉ before := by
  induction s generalizing before with
  | nil => simp [cut] at found
  | cons c rest ih =>
    rw [cut] at found
    by_cases here : c = sep
    · rw [if_pos here] at found
      obtain ⟨rfl, rfl⟩ := Prod.mk.inj (Option.some.inj found)
      simp [here]
    rw [if_neg here] at found
    obtain ⟨⟨front, _⟩, earlier, same⟩ := Option.map_eq_some_iff.mp found
    obtain ⟨rfl, rfl⟩ := Prod.mk.inj same
    obtain ⟨rfl, apart⟩ := ih earlier
    simp [Ne.symm here, apart]

theorem cut_eq_none (undivided : cut sep s = none) : sep ∉ s := by
  induction s with
  | nil => exact List.not_mem_nil
  | cons c rest ih =>
    rw [cut] at undivided
    by_cases here : c = sep
    · simp [here] at undivided
    · rw [if_neg here, Option.map_eq_none_iff] at undivided
      simp [Ne.symm here, ih undivided]

end CommandVerbs.Text
