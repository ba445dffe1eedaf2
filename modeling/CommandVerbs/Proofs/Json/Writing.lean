import CommandVerbs.Json.Writer
import CommandVerbs.Proofs.Text.Decimal

/-! What is written holds no control characters, whatever the texts it is written from hold. So a
written record stays on one line. -/
namespace CommandVerbs.Json

/-- No character is a control below U+0020. -/
def Plain (s : String) : Prop := ∀ c ∈ s.toList, 0x20 ≤ c.toNat

instance (s : String) : Decidable (Plain s) :=
  List.decidableBAll (fun c : Char => 0x20 ≤ c.toNat) s.toList

variable {s t : String} {parts : List String}

theorem Plain.append (first : Plain s) (second : Plain t) : Plain (s ++ t) := by
  intro c member
  rw [String.toList_append, List.mem_append] at member
  exact member.elim (first c) (second c)

theorem plain_join (each : ∀ part ∈ parts, Plain part) : Plain (String.join parts) := by
  induction parts with
  | nil => decide
  | cons part rest ih =>
    obtain ⟨first, later⟩ := List.forall_mem_cons.mp each
    rw [String.join_cons]
    exact first.append (ih later)

theorem plain_intercalate (between : Plain s) (each : ∀ part ∈ parts, Plain part) :
    Plain (s.intercalate parts) := by
  induction parts with
  | nil => simp [Plain]
  | cons part rest ih =>
    obtain ⟨first, later⟩ := List.forall_mem_cons.mp each
    cases rest with
    | nil => rwa [String.intercalate_singleton]
    | cons next rest =>
      rw [String.intercalate_cons_cons]
      exact (first.append between).append (ih later)

theorem plain_enclosed {left right : String} (opening : Plain left) (closing : Plain right)
    (each : ∀ part ∈ parts, Plain part) : Plain (left ++ ",".intercalate parts ++ right) :=
  (opening.append (plain_intercalate (by decide) each)).append closing

theorem plain_unicodeEscape {c : Char} (control : c.toNat < 0x20) : Plain (unicodeEscape c) := by
  have all : ∀ n < 0x20, Plain (unicodeEscape (Char.ofNat n)) := by decide +kernel
  simpa using all c.toNat control

theorem plain_escapedChar (c : Char) : Plain (escapedChar c) := by
  unfold escapedChar
  split
  case h_8 =>
    split
    · exact plain_unicodeEscape ‹_›
    · rename_i visible
      simpa [Plain] using visible
  all_goals decide

theorem plain_writtenText (s : String) : Plain (writtenText s) := by
  have inside : Plain (String.join (s.toList.map escapedChar)) :=
    plain_join fun part member => by
      obtain ⟨c, -, rfl⟩ := List.mem_map.mp member
      exact plain_escapedChar c
  exact (Plain.append (by decide) inside).append (by decide)

theorem plain_nat (n : Nat) : Plain (toString n) := by
  intro c member
  rw [Nat.toString_eq_ofList_toDigits, String.toList_ofList] at member
  have range := Text.toNat_of_isDigit (Text.isDigit_of_mem_toDigits member)
  omega

theorem plain_int (n : Int) : Plain (toString n) := by
  cases n with
  | ofNat n => exact plain_nat n
  | negSucc n => exact Plain.append (by decide) (plain_nat (n + 1))

mutual

theorem plain_written : ∀ value : Json, Plain (written value)
  | .null => by decide
  | .bool true => by decide
  | .bool false => by decide
  | .number n => plain_int n
  | .float _ => (by decide : Plain "null")
  | .text s => plain_writtenText s
  | .array items => plain_enclosed (by decide) (by decide) (plain_writtenItems items)
  | .fields entries => plain_enclosed (by decide) (by decide) (plain_writtenFields entries)

theorem plain_writtenItems : ∀ items : List Json, ∀ part ∈ writtenItems items, Plain part
  | [] => by simp [writtenItems]
  | item :: rest => by
    rw [writtenItems, List.forall_mem_cons]
    exact ⟨plain_written item, plain_writtenItems rest⟩

theorem plain_writtenFields :
    ∀ entries : List (String × Json), ∀ part ∈ writtenFields entries, Plain part
  | [] => by simp [writtenFields]
  | (key, value) :: rest => by
    rw [writtenFields, List.forall_mem_cons]
    have field := ((plain_writtenText key).append (t := ":") (by decide)).append (plain_written value)
    exact ⟨field, plain_writtenFields rest⟩

end

theorem plain_writtenRecord (members : List (String × Json)) : Plain (writtenRecord members) :=
  plain_enclosed (by decide) (by decide) (plain_writtenFields members)

end CommandVerbs.Json
