import CommandVerbs.Text.Utf8
import Mathlib.Data.List.Basic

/-! UTF-8. A sequence of bytes is read as a text exactly if it is that text as bytes, and a byte
below 0x80 stands for a character of its own. -/
namespace CommandVerbs.Text.Utf8

/-- The well-formed sequences of bytes, each with the number of its character. -/
inductive Sequence : List UInt8 → Nat → Prop
  | one {b : UInt8} : b.toNat < 0x80 → Sequence [b] b.toNat
  | two {b b₁ : UInt8} : 0xC2 ≤ b.toNat → b.toNat < 0xE0 → fitsSecond b.toNat b₁ →
      Sequence [b, b₁] ((b.toNat - 0xC0) * 0x40 + (b₁.toNat - 0x80))
  | three {b b₁ b₂ : UInt8} {p₂ : Nat} : 0xE0 ≤ b.toNat → b.toNat < 0xF0 →
      fitsSecond b.toNat b₁ → payload? b₂ = some p₂ →
      Sequence [b, b₁, b₂] ((b.toNat - 0xE0) * 0x1000 + (b₁.toNat - 0x80) * 0x40 + p₂)
  | four {b b₁ b₂ b₃ : UInt8} {p₂ p₃ : Nat} : 0xF0 ≤ b.toNat → b.toNat ≤ 0xF4 →
      fitsSecond b.toNat b₁ → payload? b₂ = some p₂ →
      payload? b₃ = some p₃ →
      Sequence [b, b₁, b₂, b₃] ((b.toNat - 0xF0) * 0x40000 + (b₁.toNat - 0x80) * 0x1000 +
        p₂ * 0x40 + p₃)

variable {b : UInt8} {bytes rest tail : List UInt8} {c : Char} {s : List Char}
  {n : Nat}

theorem toNat_toUInt8 (small : n < 0x100) : n.toUInt8.toNat = n :=
  UInt8.toNat_ofNat_of_lt' small

theorem exists_byte (small : n < 0x100) : ∃ b : UInt8, n.toUInt8 = b ∧ b.toNat = n :=
  ⟨_, rfl, toNat_toUInt8 small⟩

theorem toUInt8_eq (same : b.toNat = n) : n.toUInt8 = b := by
  subst same
  exact UInt8.ofNat_toNat

/-- Characters are numbered up to 0x10FFFF, but for the surrogates. -/
theorem toNat_valid (c : Char) :
    c.toNat < 0xD800 ∨ 0xDFFF < c.toNat ∧ c.toNat < 0x110000 := c.valid

theorem toNat_ofNat (valid : n < 0xD800 ∨ 0xDFFF < n ∧ n < 0x110000) : (Char.ofNat n).toNat = n :=
  by rw [Char.ofNat, dif_pos valid]; rfl

theorem payload?_eq_some :
    payload? b = some n ↔ b.toNat = 0x80 + n ∧ n < 0x40 := by
  rw [payload?]
  split <;> simp <;> omega

theorem fitsSecond_iff {lead : Nat} :
    fitsSecond lead b ↔ 0x80 ≤ b.toNat ∧ b.toNat ≤ 0xBF ∧ (lead = 0xE0 → 0xA0 ≤ b.toNat) ∧
      (lead = 0xED → b.toNat ≤ 0x9F) ∧ (lead = 0xF0 → 0x90 ≤ b.toNat) ∧
      (lead = 0xF4 → b.toNat ≤ 0x8F) := by
  rw [fitsSecond, Bool.and_eq_true, decide_eq_true_eq, decide_eq_true_eq, secondRange]
  split_ifs <;> omega

theorem scan_of_sequence (sequence : Sequence (b :: tail) n) (rest : List UInt8) :
    scan b (tail ++ rest) = (some (Char.ofNat n), tail.length) := by
  unfold scan
  cases sequence with
  | one small => simp only [if_pos small, List.length_nil]
  | two low high fits =>
    rw [if_neg (by omega), if_neg (by omega)]
    simp [fits, high]
  | three low high fits third =>
    rw [if_neg (by omega), if_neg (by omega)]
    simp [fits, third, high, Nat.not_lt.mpr low]
  | four low high fits third fourth =>
    rw [if_neg (by omega), if_neg (by omega)]
    simp [fits, third, fourth, Nat.not_lt.mpr low, show ¬b.toNat < 0xE0 by omega]

theorem sequence_of_scan (scanned : scan b rest = (some c, n)) :
    ∃ tail later number, rest = tail ++ later ∧ n = tail.length ∧ Sequence (b :: tail) number ∧
      c = Char.ofNat number := by
  unfold scan at scanned
  dsimp only at scanned
  -- along the branches of `scan`: only four of them give a character
  by_cases ascii : b.toNat < 0x80
  · rw [if_pos ascii] at scanned
    obtain ⟨same, rfl⟩ := Prod.mk.inj scanned
    exact ⟨[], rest, _, rfl, rfl, .one ascii, (Option.some.inj same).symm⟩
  by_cases outside : b.toNat < 0xC2 ∨ 0xF4 < b.toNat
  · simp [ascii, outside] at scanned
  rw [if_neg ascii, if_neg outside] at scanned
  cases rest with
  | nil => simp at scanned
  | cons b₁ rest =>
    dsimp only at scanned
    cases fits : fitsSecond b.toNat b₁ with
    | false => simp [fits] at scanned
    | true =>
      simp only [fits, Bool.not_true, Bool.false_eq_true, if_false] at scanned
      by_cases two : b.toNat < 0xE0
      · rw [if_pos two] at scanned
        obtain ⟨same, rfl⟩ := Prod.mk.inj scanned
        exact ⟨[b₁], rest, _, rfl, rfl, .two (by omega) two fits, (Option.some.inj same).symm⟩
      rw [if_neg two] at scanned
      cases rest with
      | nil => simp at scanned
      | cons b₂ rest =>
        cases third : payload? b₂ with
        | none => simp [third] at scanned
        | some p₂ =>
          simp only [third] at scanned
          by_cases three : b.toNat < 0xF0
          · rw [if_pos three] at scanned
            obtain ⟨same, rfl⟩ := Prod.mk.inj scanned
            exact ⟨[b₁, b₂], rest, _, rfl, rfl, .three (by omega) three fits third,
              (Option.some.inj same).symm⟩
          rw [if_neg three] at scanned
          cases rest with
          | nil => simp at scanned
          | cons b₃ rest =>
            cases fourth : payload? b₃ with
            | none => simp [fourth] at scanned
            | some p₃ =>
              simp only [fourth] at scanned
              obtain ⟨same, rfl⟩ := Prod.mk.inj scanned
              exact ⟨[b₁, b₂, b₃], rest, _, rfl, rfl, .four (by omega) (by omega) fits third fourth,
                (Option.some.inj same).symm⟩

theorem encodeChar_of_sequence (sequence : Sequence bytes n) : encodeChar (Char.ofNat n) = bytes := by
  cases sequence with
  | one small => rw [encodeChar, toNat_ofNat (by omega), if_pos small, toUInt8_eq rfl]
  | two low high fits =>
    obtain ⟨floor, ceiling, -⟩ := fitsSecond_iff.mp fits
    obtain ⟨x, lead⟩ := Nat.exists_eq_add_of_le low
    obtain ⟨y, next⟩ := Nat.exists_eq_add_of_le floor
    rw [encodeChar, toNat_ofNat (by omega), if_neg (by omega), if_pos (by omega),
      List.cons_eq_cons, List.cons_eq_cons]
    exact ⟨toUInt8_eq (by omega), toUInt8_eq (by omega), rfl⟩
  | three low high fits third =>
    obtain ⟨floor, ceiling, least, greatest, -⟩ := fitsSecond_iff.mp fits
    have third := payload?_eq_some.mp third
    obtain ⟨x, lead⟩ := Nat.exists_eq_add_of_le low
    obtain ⟨y, next⟩ := Nat.exists_eq_add_of_le floor
    rw [lead, next, Nat.add_sub_cancel_left, Nat.add_sub_cancel_left, encodeChar,
      toNat_ofNat (by omega), if_neg (by omega), if_neg (by omega), if_pos (by omega),
      List.cons_eq_cons, List.cons_eq_cons, List.cons_eq_cons]
    exact ⟨toUInt8_eq (by omega), toUInt8_eq (by omega), toUInt8_eq (by omega), rfl⟩
  | four low high fits third fourth =>
    obtain ⟨floor, ceiling, -, -, least, greatest⟩ := fitsSecond_iff.mp fits
    have third := payload?_eq_some.mp third
    have fourth := payload?_eq_some.mp fourth
    obtain ⟨x, lead⟩ := Nat.exists_eq_add_of_le low
    obtain ⟨y, next⟩ := Nat.exists_eq_add_of_le floor
    rw [lead, next, Nat.add_sub_cancel_left, Nat.add_sub_cancel_left, encodeChar,
      toNat_ofNat (by omega), if_neg (by omega), if_neg (by omega), if_neg (by omega),
      List.cons_eq_cons, List.cons_eq_cons, List.cons_eq_cons, List.cons_eq_cons]
    exact ⟨toUInt8_eq (by omega), toUInt8_eq (by omega), toUInt8_eq (by omega),
      toUInt8_eq (by omega), rfl⟩

theorem sequence_encodeChar (c : Char) : Sequence (encodeChar c) c.toNat := by
  have valid := toNat_valid c
  unfold encodeChar
  dsimp only
  by_cases one : c.toNat < 0x80
  · obtain ⟨b, first, lead⟩ := exists_byte (n := c.toNat) (by omega)
    rw [if_pos one, first, ← lead]
    exact .one (by omega)
  by_cases two : c.toNat < 0x800
  · obtain ⟨b, first, lead⟩ := exists_byte (n := 0xC0 + c.toNat / 0x40) (by omega)
    obtain ⟨b₁, second, next⟩ := exists_byte (n := 0x80 + c.toNat % 0x40) (by omega)
    have number : (b.toNat - 0xC0) * 0x40 + (b₁.toNat - 0x80) = c.toNat := by omega
    have fits : fitsSecond b.toNat b₁ := fitsSecond_iff.mpr (by omega)
    rw [if_neg one, if_pos two, first, second, ← number]
    exact .two (by omega) (by omega) fits
  have continuing : payload? (0x80 + c.toNat % 0x40).toUInt8 = some (c.toNat % 0x40) :=
    payload?_eq_some.mpr ⟨toNat_toUInt8 (by omega), by omega⟩
  by_cases three : c.toNat < 0x10000
  · obtain ⟨b, first, lead⟩ := exists_byte (n := 0xE0 + c.toNat / 0x1000) (by omega)
    obtain ⟨b₁, second, next⟩ := exists_byte (n := 0x80 + c.toNat / 0x40 % 0x40) (by omega)
    have number : (b.toNat - 0xE0) * 0x1000 + (b₁.toNat - 0x80) * 0x40 + c.toNat % 0x40 = c.toNat := by
      omega
    have fits : fitsSecond b.toNat b₁ := fitsSecond_iff.mpr (by omega)
    have sequence := Sequence.three (by omega) (by omega) fits continuing
    rw [number] at sequence
    rwa [if_neg one, if_neg two, if_pos three, first, second]
  · obtain ⟨b, first, lead⟩ := exists_byte (n := 0xF0 + c.toNat / 0x40000) (by omega)
    obtain ⟨b₁, second, next⟩ := exists_byte (n := 0x80 + c.toNat / 0x1000 % 0x40) (by omega)
    have third : payload? (0x80 + c.toNat / 0x40 % 0x40).toUInt8 = some (c.toNat / 0x40 % 0x40) :=
      payload?_eq_some.mpr ⟨toNat_toUInt8 (by omega), by omega⟩
    have number : (b.toNat - 0xF0) * 0x40000 + (b₁.toNat - 0x80) * 0x1000 +
        c.toNat / 0x40 % 0x40 * 0x40 + c.toNat % 0x40 = c.toNat := by omega
    have fits : fitsSecond b.toNat b₁ := fitsSecond_iff.mpr (by omega)
    have sequence := Sequence.four (by omega) (by omega) fits third continuing
    rw [number] at sequence
    rwa [if_neg one, if_neg two, if_neg three, first, second]

/-! ## Texts -/

/-- A sequence of bytes is read as a text exactly if it is that text as bytes. -/
theorem decode_eq_some_iff : decode bytes = some s ↔ encode s = bytes := by
  constructor
  · intro read
    induction bytes using decode.induct generalizing s with
    | case1 =>
      rw [decode] at read
      rw [← Option.some.inj read, encode, List.flatMap_nil]
    | case2 b rest n refused => simp [decode, refused] at read
    -- what `scan` consumes is the sequence of one character, and the rest is read on its own
    | case3 b rest c n scanned ih =>
      rw [decode, scanned] at read
      obtain ⟨later, further, rfl⟩ := Option.map_eq_some_iff.mp read
      obtain ⟨tail, after, number, rfl, rfl, sequence, rfl⟩ := sequence_of_scan scanned
      rw [List.drop_left] at further ih
      rw [encode, List.flatMap_cons, encodeChar_of_sequence sequence]
      exact congrArg (b :: tail ++ ·) (ih further)
  · rintro rfl
    induction s with
    | nil => rw [encode, List.flatMap_nil, decode]
    | cons c rest ih =>
      have sequence := sequence_encodeChar c
      rw [encode, List.flatMap_cons]
      cases first : encodeChar c with
      | nil =>
        rw [first] at sequence
        cases sequence
      | cons b tail =>
        rw [first] at sequence
        have scanned := scan_of_sequence sequence (encode rest)
        rw [List.cons_append, decode, ← encode, scanned, Char.ofNat_toNat]
        simp only [List.drop_left, ih, Option.map_some]

/-- A byte below 0x80 is a sequence of its own and part of no other. -/
theorem Sequence.mem_iff (sequence : Sequence bytes n) (small : b.toNat < 0x80) :
    b ∈ bytes ↔ n = b.toNat := by
  cases sequence with
  | one =>
    rw [List.mem_singleton, eq_comm, UInt8.toNat_inj]
  | two low high fits =>
    obtain ⟨floor, ceiling, -⟩ := fitsSecond_iff.mp fits
    simp only [List.mem_cons, List.not_mem_nil, or_false, ← UInt8.toNat_inj]
    omega
  | three low high fits third =>
    obtain ⟨floor, ceiling, least, greatest, -⟩ := fitsSecond_iff.mp fits
    have third := payload?_eq_some.mp third
    simp only [List.mem_cons, List.not_mem_nil, or_false, ← UInt8.toNat_inj]
    omega
  | four low high fits third fourth =>
    obtain ⟨floor, ceiling, -, -, least, greatest⟩ := fitsSecond_iff.mp fits
    have third := payload?_eq_some.mp third
    have fourth := payload?_eq_some.mp fourth
    simp only [List.mem_cons, List.not_mem_nil, or_false, ← UInt8.toNat_inj]
    omega

theorem lineFeed_mem_encode : 0x0A ∈ encode s ↔ '\n' ∈ s := by
  rw [encode, List.mem_flatMap]
  constructor
  · rintro ⟨c, member, byte⟩
    have number := ((sequence_encodeChar c).mem_iff (by decide)).mp byte
    have same : c = '\n' := Char.toNat_inj.mp number
    exact same ▸ member
  · exact fun member => ⟨_, member, by decide⟩

end CommandVerbs.Text.Utf8
