import Mathlib.Data.List.DropRight
import CommandVerbs.Text.Blank

/-! Trimming takes away whole stretches of blanks at the ends of a text, and nothing a second time. -/
namespace CommandVerbs.Text

variable {c : Char} {s t rest : List Char}

theorem dropBlanksEnd_eq (s : List Char) : dropBlanksEnd s = s.rdropWhile isBlank := rfl

theorem dropBlanks_of_head (solid : isBlank c = false) : dropBlanks (c :: rest) = c :: rest :=
  List.dropWhile_cons_of_neg (by simp [solid])

theorem head_dropBlanks (shape : dropBlanks s = c :: rest) : isBlank c = false := by
  have head := List.head?_dropWhile_not isBlank s
  rw [show s.dropWhile isBlank = c :: rest from shape] at head
  simpa using head

theorem dropBlanksEnd_append_blanks (s : List Char) (blank : ∀ c ∈ t, isBlank c) :
    dropBlanksEnd (s ++ t) = dropBlanksEnd s := by
  have blank : ∀ c ∈ t.reverse, isBlank c := fun c member => blank c (List.mem_reverse.mp member)
  rw [dropBlanksEnd, dropBlanks, List.reverse_append, List.dropWhile_append_of_pos blank]
  rfl

/-- Only what follows the last character that is not blank is touched. -/
theorem dropBlanksEnd_append_cons (s : List Char) (solid : isBlank c = false) (t : List Char) :
    dropBlanksEnd (s ++ c :: t) = s ++ c :: dropBlanksEnd t := by
  have stop : (c :: s.reverse).dropWhile isBlank = c :: s.reverse := dropBlanks_of_head solid
  rw [dropBlanksEnd, dropBlanks, List.reverse_append, List.reverse_cons, List.append_assoc,
    List.singleton_append, List.dropWhile_append, stop]
  by_cases all : (t.reverse.dropWhile isBlank).isEmpty
  · have none : dropBlanksEnd t = [] := by
      rw [dropBlanksEnd, dropBlanks, List.isEmpty_iff.mp all, List.reverse_nil]
    simp [all, none]
  · simp [all, dropBlanksEnd, dropBlanks]

theorem trimChars_cons (solid : isBlank c = false) (rest : List Char) :
    trimChars (c :: rest) = c :: dropBlanksEnd rest := by
  rw [trimChars, dropBlanks_of_head solid]
  exact dropBlanksEnd_append_cons [] solid rest

theorem trimChars_append_blanks (s : List Char) (blank : ∀ c ∈ t, isBlank c) :
    trimChars (s ++ t) = trimChars s := by
  rw [trimChars, dropBlanks, List.dropWhile_append]
  by_cases all : (s.dropWhile isBlank).isEmpty
  · have none : trimChars s = [] := by
      rw [trimChars, dropBlanks, List.isEmpty_iff.mp all]
      rfl
    have gone : t.dropWhile isBlank = [] := List.dropWhile_eq_nil_iff.mpr blank
    rw [if_pos all, none, gone]
    rfl
  · rw [if_neg all, dropBlanksEnd_append_blanks _ blank]
    rfl

theorem trimChars_dropBlanksEnd (s : List Char) : trimChars (dropBlanksEnd s) = trimChars s := by
  have parts : dropBlanksEnd s ++ s.rtakeWhile isBlank = s := List.rdropWhile_append_rtakeWhile
  rw [← trimChars_append_blanks (dropBlanksEnd s) fun _ => List.mem_rtakeWhile_imp, parts]

theorem mem_of_mem_trimChars (member : c ∈ trimChars s) : c ∈ s :=
  (List.dropWhile_suffix isBlank).subset ((List.rdropWhile_prefix isBlank _).subset member)

/-- A text that is left after trimming starts with a character that is not blank. -/
theorem head_trimChars (shape : trimChars s = c :: rest) : isBlank c = false := by
  obtain ⟨after, whole⟩ : dropBlanksEnd (dropBlanks s) <+: dropBlanks s :=
    List.rdropWhile_prefix isBlank (dropBlanks s)
  rw [show dropBlanksEnd (dropBlanks s) = c :: rest from shape, List.cons_append] at whole
  exact head_dropBlanks whole.symm

theorem trimChars_trimChars (s : List Char) : trimChars (trimChars s) = trimChars s := by
  have front : dropBlanks (trimChars s) = trimChars s := by
    cases shape : trimChars s with
    | nil => rfl
    | cons c rest => exact dropBlanks_of_head (head_trimChars shape)
  rw [trimChars, front, trimChars, dropBlanksEnd_eq, dropBlanksEnd_eq, List.rdropWhile_idempotent]

theorem trim_trim (s : String) : trim (trim s) = trim s := by
  rw [trim, trim, String.toList_ofList, trimChars_trimChars]

/-- A text is trimmed if there is no blank at either of its ends. -/
theorem trimChars_eq_self_iff : trimChars s = s ↔
    (∀ c ∈ s.head?, isBlank c = false) ∧ ∀ c ∈ s.getLast?, isBlank c = false := by
  constructor
  · intro trimmed
    constructor
    · intro c first
      obtain ⟨rest, rfl⟩ := List.head?_eq_some_iff.mp first
      exact head_trimChars trimmed
    · intro c last
      have fixed : s.rdropWhile isBlank = s := by
        have again := congrArg (List.rdropWhile isBlank) trimmed
        rwa [trimChars, dropBlanksEnd_eq, List.rdropWhile_idempotent, ← dropBlanksEnd_eq,
          ← trimChars, trimmed, eq_comm] at again
      obtain ⟨rest, rfl⟩ := List.getLast?_eq_some_iff.mp last
      simpa using List.rdropWhile_eq_self_iff.mp fixed
  · rintro ⟨first, last⟩
    have front : dropBlanks s = s := by
      cases s with
      | nil => rfl
      | cons c rest => exact dropBlanks_of_head (first c rfl)
    rw [trimChars, front, dropBlanksEnd_eq, List.rdropWhile_eq_self_iff]
    intro some
    simpa using last _ (List.getLast?_eq_some_getLast some)

/-- A character that is not blank is not trimmed away. -/
theorem trimChars_ne_nil (member : c ∈ s) (solid : isBlank c = false) : trimChars s ≠ [] := by
  intro gone
  rw [trimChars, dropBlanksEnd_eq, List.rdropWhile_eq_nil_iff] at gone
  rw [← List.takeWhile_append_dropWhile (p := isBlank) (l := s)] at member
  rcases List.mem_append.mp member with early | late
  · exact absurd (List.mem_takeWhile_imp early) (by simp [solid])
  · exact absurd (gone c late) (by simp [solid])

theorem trimChars_of_solid_end (solid : ∀ c ∈ s.getLast?, isBlank c = false) :
    trimChars s = dropBlanks s := by
  have suffix : dropBlanks s <:+ s := List.dropWhile_suffix isBlank
  rw [trimChars, dropBlanksEnd_eq, List.rdropWhile_eq_self_iff]
  intro some
  rw [suffix.getLast some]
  simpa using solid _ (List.getLast?_eq_some_getLast (suffix.ne_nil some))

/-- A text with no blank at its start is trimmed at its end only. -/
theorem trimChars_prefix (solid : ∀ c ∈ s.head?, isBlank c = false) : trimChars s <+: s := by
  cases s with
  | nil => exact List.prefix_rfl
  | cons c rest =>
    rw [trimChars, dropBlanks_of_head (solid c rfl)]
    exact List.rdropWhile_prefix isBlank _

theorem trimChars_sublist (s : List Char) : (trimChars s).Sublist s :=
  (List.rdropWhile_prefix isBlank _).sublist.trans (List.dropWhile_suffix isBlank).sublist

theorem trimChars_blanks (blank : ∀ c ∈ s, isBlank c) : trimChars s = [] :=
  trimChars_append_blanks [] blank

theorem trimChars_blanks_append (blank : ∀ c ∈ s, isBlank c) (t : List Char) :
    trimChars (s ++ t) = trimChars t := by
  rw [trimChars, dropBlanks, List.dropWhile_append_of_pos blank]
  rfl

/-- Of a text with a solid part, trimming the end takes nothing but blanks after that part, or at its end
where nothing solid follows. -/
theorem dropBlanksEnd_around (before after : List Char) (member : c ∈ s) (solid : isBlank c = false) :
    before ++ s <+: dropBlanksEnd (before ++ s ++ after) ∨
      dropBlanksEnd (before ++ s ++ after) = before ++ dropBlanksEnd s := by
  by_cases blank : ∀ d ∈ after, isBlank d
  · right
    obtain ⟨front, back, rfl⟩ := List.append_of_mem member
    rw [dropBlanksEnd_append_blanks _ blank, ← List.append_assoc,
      dropBlanksEnd_append_cons _ solid, dropBlanksEnd_append_cons _ solid, List.append_assoc]
  · left
    push Not at blank
    obtain ⟨d, later, solid⟩ := blank
    obtain ⟨front, back, rfl⟩ := List.append_of_mem later
    rw [← List.append_assoc, dropBlanksEnd_append_cons _ (by simpa using solid), List.append_assoc]
    exact List.prefix_append _ _

end CommandVerbs.Text
