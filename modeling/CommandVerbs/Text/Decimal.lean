/-!
# Decimal integers

Reading an integer written with ASCII digits. A plus sign may precede any integer and a minus sign
one of a signed range; a text without digits and a value out of range are refused.
-/

namespace CommandVerbs.Text

/-- The value of an ASCII digit. -/
def digit? (c : Char) : Option Nat :=
  if '0' ≤ c ∧ c ≤ '9' then some (c.toNat - '0'.toNat) else none

/-- The value of a run of digits that continues one of value `acc`. -/
def digitsFrom? (acc : Nat) : List Char → Option Nat
  | [] => some acc
  | c :: rest => (digit? c).bind fun d => digitsFrom? (acc * 10 + d) rest

/-- The value of a run of at least one digit. -/
def digits? : List Char → Option Nat
  | [] => none
  | s@(_ :: _) => digitsFrom? 0 s

/-- A natural number of at most `limit`. -/
def natural? (limit : Nat) (s : List Char) : Option Nat :=
  let unsigned := match s with
    | '+' :: rest => rest
    | _ => s
  (digits? unsigned).filter (· ≤ limit)

/-- An integer between `low` and `high`. -/
def integer? (low high : Int) (s : List Char) : Option Int :=
  let value := match s with
    | '-' :: rest => (digits? rest).map fun n => -(n : Int)
    | '+' :: rest => (digits? rest).map Int.ofNat
    | _ => (digits? s).map Int.ofNat
  value.filter fun n => low ≤ n && n ≤ high

/-- An integer of the range of 64 bits. -/
def int64? (s : String) : Option Int :=
  integer? (-0x8000000000000000) 0x7FFFFFFFFFFFFFFF s.toList

/-- The digits of a number in base sixteen, in lower case. -/
def hex (n : Nat) : String :=
  String.ofList (Nat.toDigits 16 n)

end CommandVerbs.Text
