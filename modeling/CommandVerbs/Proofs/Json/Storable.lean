import CommandVerbs.Json.Basic
import CommandVerbs.KeyMap

/-! Values that JSON texts hold, and how deeply they are nested. -/
namespace CommandVerbs.Json

/-- A value that fits the data model of JSON and holds no floating-point numbers: its integers have 64
bits, signed or not, and the fields of an object have distinct keys and stand in key order. -/
inductive Storable : Json → Prop
  | null : Storable .null
  | bool (b : Bool) : Storable (.bool b)
  | number {n : Int} : -0x8000000000000000 ≤ n → n ≤ 0xFFFFFFFFFFFFFFFF → Storable (.number n)
  | text (s : String) : Storable (.text s)
  | array {items : List Json} : (∀ item ∈ items, Storable item) → Storable (.array items)
  | fields {entries : List (String × Json)} : Ascending entries →
      (∀ entry ∈ entries, Storable entry.2) → Storable (.fields entries)

mutual

/-- How many arrays and objects stand inside one another. -/
def nesting : Json → Nat
  | .array items => nestingOfItems items + 1
  | .fields entries => nestingOfFields entries + 1
  | .null | .bool _ | .number _ | .float _ | .text _ => 0

def nestingOfItems : List Json → Nat
  | [] => 0
  | item :: rest => max (nesting item) (nestingOfItems rest)

def nestingOfFields : List (String × Json) → Nat
  | [] => 0
  | (_, value) :: rest => max (nesting value) (nestingOfFields rest)

end

end CommandVerbs.Json
