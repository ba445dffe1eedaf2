import Mathlib
import CommandVerbs.Text.LetterCase

/-! Comparing a name with a text that is in lower case already. The letters of such a text have no
further lower-case form, which is a fact about the tables of letters. So a comparison that heeds only
A to Z finds the name exactly if it has no other raised letters and its lower-case form is the text. -/
namespace CommandVerbs.Text

namespace LetterCase

variable {c d : Char} {s before : List Char} {n : Nat} {r : Run}

/-- No row of the tables gives the letter another lower-case form. -/
structure Still (c : Char) : Prop where
  unexpanded : ∀ e ∈ lowerExpansions.toList, e.1 ≠ c.toNat
  uncovered : ∀ r ∈ lowerRuns.toList, ¬r.covers c.toNat

theorem still_iff : Still c ↔ (∀ e ∈ lowerExpansions.toList, e.1 ≠ c.toNat) ∧
    ∀ r ∈ lowerRuns.toList, ¬r.covers c.toNat :=
  ⟨fun still => ⟨still.unexpanded, still.uncovered⟩, fun ⟨first, second⟩ => ⟨first, second⟩⟩

instance : DecidablePred Still := fun _ => decidable_of_iff _ still_iff.symm

/-- The code points of a run. -/
def Run.codes (r : Run) : List Nat :=
  (List.range ((r.last - r.first) / r.step + 1)).map (r.first + · * r.step)

theorem Run.mem_codes (covered : r.covers n) : n ∈ r.codes := by
  simp only [Run.covers, Bool.and_eq_true, decide_eq_true_eq, beq_iff_eq] at covered
  obtain ⟨⟨low, high⟩, place⟩ := covered
  refine List.mem_map.mpr ⟨(n - r.first) / r.step, List.mem_range.mpr ?_, ?_⟩
  · have := Nat.div_le_div_right (c := r.step) (Nat.sub_le_sub_right high r.first)
    omega
  · rw [Nat.div_mul_cancel (Nat.dvd_of_mod_eq_zero place)]
    omega

/-- The code points that the tables have a row for. -/
def raisedCodes : List Nat :=
  lowerExpansions.toList.map (·.1) ++ lowerRuns.toList.flatMap Run.codes

/-- The code points of lower-case forms, the two small sigmas among them. -/
def formCodes : List Nat :=
  [0x3C2, 0x3C3] ++ lowerExpansions.toList.flatMap (·.2) ++
    lowerRuns.toList.flatMap fun r => r.codes.map r.partner

theorem mem_raisedCodes (moves : ¬Still c) : c.toNat ∈ raisedCodes := by
  rw [raisedCodes, List.mem_append, List.mem_map, List.mem_flatMap]
  by_contra neither
  obtain ⟨unexpanded, uncovered⟩ := not_or.mp neither
  apply moves
  constructor
  · intro e listed same
    exact unexpanded ⟨e, listed, same⟩
  · intro r listed covered
    exact uncovered ⟨r, listed, r.mem_codes covered⟩

/-- A set of code points as the bits of a number, by which two sets of thousands are compared at once. -/
def bits (codes : List Nat) : Nat := codes.foldl (fun set n => set ||| 1 <<< n) 0

theorem testBit_bits {codes : List Nat} (member : n ∈ codes) : (bits codes).testBit n := by
  suffices grows : ∀ set, set.testBit n ∨ n ∈ codes →
      (codes.foldl (fun set n => set ||| 1 <<< n) set).testBit n from grows 0 (.inr member)
  clear member
  induction codes with
  | nil => simp
  | cons m rest ih =>
    intro set found
    apply ih
    rcases found with before | here
    · simp [before]
    · rcases List.mem_cons.mp here with rfl | later
      · simp
      · exact .inr later

theorem raised_disjoint_form : bits raisedCodes &&& bits formCodes = 0 := by decide +kernel

theorem still_of_form (form : c.toNat ∈ formCodes) : Still c := by
  by_contra moves
  have both : (bits raisedCodes &&& bits formCodes).testBit c.toNat := by
    rw [Nat.testBit_and, testBit_bits (mem_raisedCodes moves), testBit_bits form]
    rfl
  rw [raised_disjoint_form, Nat.zero_testBit] at both
  contradiction

theorem still_ofNat (form : n ∈ formCodes) : Still (Char.ofNat n) := by
  by_cases valid : n.isValidChar
  · have same : (Char.ofNat n).toNat = n := by
      rw [Char.ofNat, dif_pos valid]
      rfl
    exact still_of_form (same.symm ▸ form)
  · rw [Char.ofNat, dif_neg valid]
    decide +kernel

theorem Still.mapped (still : Still c) : mapped lowerExpansions lowerRuns c = [c] := by
  have noExpansion : lowerExpansions.find? (·.1 == c.toNat) = none := by
    rw [← Array.find?_toList]
    exact List.find?_eq_none.mpr fun e listed => by simpa using still.unexpanded e listed
  have noRun : lowerRuns.find? (·.covers c.toNat) = none := by
    rw [← Array.find?_toList]
    exact List.find?_eq_none.mpr still.uncovered
  rw [LetterCase.mapped, noExpansion, noRun]

/-- What the tables give is a lower-case form, or the letter itself. -/
theorem mem_mapped (member : d ∈ mapped lowerExpansions lowerRuns c) :
    (∃ n ∈ formCodes, d = Char.ofNat n) ∨ Still c ∧ d = c := by
  by_cases still : Still c
  · rw [still.mapped] at member
    exact .inr ⟨still, List.mem_singleton.mp member⟩
  left
  unfold LetterCase.mapped at member
  split at member
  · rename_i e codes found
    obtain ⟨code, listed, rfl⟩ := List.mem_map.mp member
    have row := Array.mem_toList_iff.mpr (Array.mem_of_find?_eq_some found)
    refine ⟨code, ?_, rfl⟩
    simp only [formCodes, List.mem_append, List.mem_flatMap]
    exact .inl (.inr ⟨_, row, listed⟩)
  rename_i noExpansion
  split at member
  · rename_i run found
    have row := Array.mem_toList_iff.mpr (Array.mem_of_find?_eq_some found)
    have covers : run.covers c.toNat := Array.find?_some (p := fun r : Run => r.covers c.toNat) found
    refine ⟨run.partner c.toNat, ?_, List.mem_singleton.mp member⟩
    simp only [formCodes, List.mem_append, List.mem_flatMap, List.mem_map]
    exact .inr ⟨run, row, c.toNat, run.mem_codes covers, rfl⟩
  · rename_i noRun
    refine absurd (still_iff.mpr ⟨fun e listed same => ?_, fun r listed => ?_⟩) still
    · rw [← Array.find?_toList] at noExpansion
      simpa [same] using List.find?_eq_none.mp noExpansion e listed
    · rw [← Array.find?_toList] at noRun
      exact List.find?_eq_none.mp noRun r listed

theorem isUpper_iff : c.isUpper ↔ 65 ≤ c.toNat ∧ c.toNat ≤ 90 := by
  simp only [Char.isUpper, decide_eq_true_eq]
  rfl

theorem toLower_of_ge (beyond : 0x80 ≤ c.toNat) : c.toLower = c := by
  apply Char.toLower_eq_of_not_isUpper
  intro upper
  have := isUpper_iff.mp upper
  omega

theorem toNat_toLower_of_isUpper (upper : c.isUpper) : c.toLower.toNat = c.toNat + 32 := by
  obtain ⟨-, below⟩ := isUpper_iff.mp upper
  have valid : (c.toNat + 32).isValidChar := .inl (by omega)
  rw [Char.toLower_eq_of_isUpper upper, Char.ofNat, dif_pos valid]
  rfl

theorem toNat_toLower_lt (ascii : c.toNat < 0x80) : c.toLower.toNat < 0x80 := by
  by_cases upper : c.isUpper
  · have := toNat_toLower_of_isUpper upper
    have := isUpper_iff.mp upper
    omega
  · rwa [Char.toLower_eq_of_not_isUpper upper]

theorem lowerChar_of_lt (ascii : c.toNat < 0x80) : lowerChar c = [c.toLower] := if_pos ascii

theorem lowerChar_of_ge (beyond : 0x80 ≤ c.toNat) :
    lowerChar c = mapped lowerExpansions lowerRuns c := if_neg (by omega)

theorem Still.toLower (still : Still c) : c.toLower = c := by
  apply Char.toLower_eq_of_not_isUpper
  intro upper
  obtain ⟨above, below⟩ := isUpper_iff.mp upper
  refine still.uncovered ⟨0x41, 0x5A, 1, 32⟩ (by decide) ?_
  simp [Run.covers, above, below, Nat.mod_one]

theorem Still.lowerChar (still : Still c) : lowerChar c = [c] := by
  by_cases ascii : c.toNat < 0x80
  · rw [lowerChar_of_lt ascii, still.toLower]
  · rw [lowerChar_of_ge (by omega), still.mapped]

theorem Still.ne_sigma (still : Still c) : c ≠ 'Σ' := by
  rintro rfl
  exact still.uncovered ⟨0x3A3, 0x3AB, 1, 32⟩ (by decide +kernel) (by decide +kernel)

/-- Among the rows of the tables only one is about ASCII. -/
theorem rows_beyond_ascii : (∀ e ∈ lowerExpansions.toList, 0x80 ≤ e.1) ∧
    ∀ r ∈ lowerRuns.toList, 0x80 ≤ r.first ∨ r = ⟨0x41, 0x5A, 1, 32⟩ := by decide +kernel

theorem still_of_lt (ascii : c.toNat < 0x80) (notUpper : ¬c.isUpper) : Still c := by
  obtain ⟨expansions, runs⟩ := rows_beyond_ascii
  constructor
  · intro e listed same
    have := expansions e listed
    omega
  · intro r listed covered
    simp only [Run.covers, Bool.and_eq_true, decide_eq_true_eq] at covered
    obtain ⟨⟨low, high⟩, -⟩ := covered
    rcases runs r listed with beyond | rfl
    · omega
    · exact notUpper (isUpper_iff.mpr ⟨low, high⟩)

theorem still_toLower (ascii : c.toNat < 0x80) : Still c.toLower := by
  apply still_of_lt (toNat_toLower_lt ascii)
  rw [Char.isUpper_toLower_eq_false]
  exact Bool.false_ne_true

/-- Lower-case forms have no further ones. -/
theorem still_of_mem_lowerChar (member : d ∈ lowerChar c) : Still d := by
  by_cases ascii : c.toNat < 0x80
  · rw [lowerChar_of_lt ascii] at member
    rw [List.mem_singleton.mp member]
    exact still_toLower ascii
  · rw [lowerChar_of_ge (by omega)] at member
    rcases mem_mapped member with ⟨n, form, rfl⟩ | ⟨still, rfl⟩
    · exact still_ofNat form
    · exact still

theorem still_of_mem_lowerAfter (member : d ∈ lowerAfter before s) : Still d := by
  induction s generalizing before with
  | nil => exact absurd member List.not_mem_nil
  | cons c rest ih =>
    rw [lowerAfter] at member
    rcases List.mem_append.mp member with form | later
    · split at form
      · have sigma : d = 'ς' ∨ d = 'σ' := by
          split at form
          · exact .inl (List.mem_singleton.mp form)
          · exact .inr (List.mem_singleton.mp form)
        apply still_of_form
        rcases sigma with rfl | rfl <;> simp [formCodes]
      · exact still_of_mem_lowerChar form
    · exact ih later

theorem lowerAfter_of_raised (ascii : ∀ c ∈ s, c.toNat < 0x80 ∨ Still c) (before : List Char) :
    lowerAfter before s = s.map Char.toLower := by
  induction s generalizing before with
  | nil => rfl
  | cons c rest ih =>
    obtain ⟨first, later⟩ := List.forall_mem_cons.mp ascii
    rw [lowerAfter, ih later, List.map_cons]
    rcases first with below | still
    · have plain : c ≠ 'Σ' := by
        rintro rfl
        exact absurd below (by decide)
      rw [if_neg plain, lowerChar_of_lt below]
      rfl
    · rw [if_neg still.ne_sigma, still.lowerChar, still.toLower]
      rfl

end LetterCase

open LetterCase

/-- The letters of the text that are not in lower case are among A to Z. -/
def RaisedInAscii (s : String) : Prop := ∀ c ∈ s.toList, c.toNat < 0x80 ∨ Still c

instance : DecidablePred RaisedInAscii := fun s =>
  inferInstanceAs (Decidable (∀ c ∈ s.toList, c.toNat < 0x80 ∨ Still c))

theorem toList_lower (s : String) : (lower s).toList = lowerAfter [] s.toList := String.toList_ofList

/-- Comparing a name with a text in lower case by A to Z is comparing them by all letters, except that
it never finds a name with a raised letter outside ASCII. -/
theorem sameIgnoringAsciiCase_lower (name requested : String) :
    sameIgnoringAsciiCase name (lower requested) ↔
      RaisedInAscii name ∧ lower name = lower requested := by
  have lowered : (lower requested).toList.map Char.toLower = (lower requested).toList := by
    rw [toList_lower]
    refine (List.map_congr_left fun c member => ?_).trans (List.map_id _)
    exact (still_of_mem_lowerAfter member).toLower
  rw [sameIgnoringAsciiCase, lowered, beq_iff_eq]
  constructor
  · intro same
    have raised : RaisedInAscii name := by
      intro c member
      have form : c.toLower ∈ lowerAfter [] requested.toList := by
        rw [← toList_lower, ← same]
        exact List.mem_map_of_mem member
      by_cases ascii : c.toNat < 0x80
      · exact .inl ascii
      · rw [toLower_of_ge (by omega)] at form
        exact .inr (still_of_mem_lowerAfter form)
    refine ⟨raised, String.toList_injective ?_⟩
    rw [toList_lower, lowerAfter_of_raised raised, same]
  · rintro ⟨raised, same⟩
    rw [← same, toList_lower, lowerAfter_of_raised raised]

end CommandVerbs.Text
