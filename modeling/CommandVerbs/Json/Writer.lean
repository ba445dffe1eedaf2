import CommandVerbs.Json.Basic
import CommandVerbs.Text.Decimal

/-!
# Writing JSON

The compact written form: no spaces, fields in key order, and escapes for the quote, the backslash
and the controls below U+0020 only. It is meant for values without floating-point numbers, which are
written as `null`.
-/

namespace CommandVerbs.Json

/-- A control character as four hexadecimal digits. -/
def unicodeEscape (c : Char) : String :=
  let digits := Text.hex c.toNat
  "\\u" ++ String.ofList (List.replicate (4 - digits.length) '0') ++ digits

/-- One character of a written text. -/
def escapedChar (c : Char) : String :=
  match c with
  | '"' => "\\\""
  | '\\' => "\\\\"
  | '\x08' => "\\b"
  | '\t' => "\\t"
  | '\n' => "\\n"
  | '\x0c' => "\\f"
  | '\r' => "\\r"
  | c => if c.toNat < 0x20 then unicodeEscape c else c.toString

/-- A text between quotes. -/
def writtenText (s : String) : String :=
  "\"" ++ String.join (s.toList.map escapedChar) ++ "\""

mutual

/-- The compact written form of a value. -/
def written : Json → String
  | .null => "null"
  | .bool true => "true"
  | .bool false => "false"
  | .number n => toString n
  | .float _ => "null"
  | .text s => writtenText s
  | .array items => "[" ++ ",".intercalate (writtenItems items) ++ "]"
  | .fields entries => "\x7b" ++ ",".intercalate (writtenFields entries) ++ "\x7d"

/-- The written forms of the items of an array. -/
def writtenItems : List Json → List String
  | [] => []
  | item :: rest => written item :: writtenItems rest

/-- The written forms of the fields of an object. -/
def writtenFields : List (String × Json) → List String
  | [] => []
  | (key, value) :: rest => (writtenText key ++ ":" ++ written value) :: writtenFields rest

end

/-- The written form of a record, its members in the given order. -/
def writtenRecord (members : List (String × Json)) : String :=
  "\x7b" ++ ",".intercalate (writtenFields members) ++ "\x7d"

end CommandVerbs.Json
