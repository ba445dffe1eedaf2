import CommandVerbs.Text.Blank
import CommandVerbs.Text.Decimal

/-! Numbers that are written with decimal digits are read back. -/
namespace CommandVerbs.Text

variable {c : Char} {s : List Char} {n limit : Nat}

theorem digit?_of_isDigit (digit : c.isDigit) : digit? c = some (c.toNat - '0'.toNat) := by
  have range : '0' ≤ c ∧ c ≤ '9' := by
    simpa [Char.isDigit, Char.le_def] using digit
  rw [digit?, if_pos range]

theorem toNat_of_isDigit (digit : c.isDigit) : 48 ≤ c.toNat ∧ c.toNat ≤ 57 := by
  simpa [Char.isDigit, UInt32.le_iff_toNat_le] using digit

theorem not_blank_of_isDigit (digit : c.isDigit) : isBlank c = false := by
  have range := toNat_of_isDigit digit
  grind [isBlank]

theorem digitsFrom?_eq (digits : ∀ c ∈ s, c.isDigit) (acc : Nat) :
    digitsFrom? acc s = some (Nat.ofDigitChars 10 s acc) := by
  induction s generalizing acc with
  | nil => rfl
  | cons c rest ih =>
    obtain ⟨digit, digits⟩ := List.forall_mem_cons.mp digits
    rw [digitsFrom?, digit?_of_isDigit digit, Option.bind_some, ih digits, Nat.ofDigitChars_cons,
      Nat.mul_comm]

theorem digit?_of_not_isDigit (other : ¬c.isDigit) : digit? c = none := by
  have range : ¬('0' ≤ c ∧ c ≤ '9') := by
    simpa [Char.isDigit, Char.le_def] using other
  rw [digit?, if_neg range]

theorem digitsFrom?_of_not_isDigit (other : ∃ c ∈ s, ¬c.isDigit) (acc : Nat) :
    digitsFrom? acc s = none := by
  induction s generalizing acc with
  | nil => simp at other
  | cons c rest ih =>
    by_cases digit : c.isDigit
    · have later : ∃ c ∈ rest, ¬c.isDigit := by simpa [digit] using other
      rw [digitsFrom?, digit?_of_isDigit digit, Option.bind_some, ih later]
    · rw [digitsFrom?, digit?_of_not_isDigit digit, Option.bind_none]

/-- At least one ASCII digit, with the value of all of them. -/
structure IsNumeral (s : List Char) (n : Nat) : Prop where
  nonempty : s ≠ []
  digits : ∀ c ∈ s, c.isDigit
  value : Nat.ofDigitChars 10 s 0 = n

theorem digits?_eq_some_iff : digits? s = some n ↔ IsNumeral s n := by
  have split : digits? s = if s = [] then none else digitsFrom? 0 s := by
    cases s <;> rfl
  rw [split]
  by_cases nonempty : s = []
  · simp only [if_pos nonempty, reduceCtorEq, false_iff]
    exact fun numeral => numeral.nonempty nonempty
  rw [if_neg nonempty]
  by_cases digits : ∀ c ∈ s, c.isDigit
  · rw [digitsFrom?_eq digits, Option.some_inj]
    exact ⟨fun value => ⟨nonempty, digits, value⟩, IsNumeral.value⟩
  · rw [digitsFrom?_of_not_isDigit (by simpa using digits)]
    simp only [reduceCtorEq, false_iff]
    exact fun numeral => digits numeral.digits

theorem isDigit_of_mem_toDigits (member : c ∈ Nat.toDigits 10 n) : c.isDigit :=
  Nat.isDigit_of_mem_toDigits (by decide) (by decide) member

theorem digits?_toDigits (n : Nat) : digits? (Nat.toDigits 10 n) = some n := by
  have read := digitsFrom?_eq (fun _ => isDigit_of_mem_toDigits (n := n)) 0
  rw [Nat.ofDigitChars_ten_toDigits] at read
  obtain ⟨c, rest, shape⟩ := List.exists_cons_of_ne_nil (Nat.toDigits_ne_nil (b := 10) (n := n))
  rw [shape] at read ⊢
  exact read

theorem natural?_toDigits (within : n ≤ limit) : natural? limit (Nat.toDigits 10 n) = some n := by
  have read := digits?_toDigits n
  unfold natural?
  split
  · rename_i rest shape
    have sign : '+' ∈ Nat.toDigits 10 n := shape ▸ List.mem_cons_self
    exact absurd (isDigit_of_mem_toDigits sign) (by decide)
  · simp only [read, Option.filter_some, within, decide_true, if_true]

end CommandVerbs.Text
