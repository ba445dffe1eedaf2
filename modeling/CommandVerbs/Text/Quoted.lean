import CommandVerbs.Text.Decimal
import CommandVerbs.Text.Unseen

/-!
# Texts quoted for inspection

A quoted text stands between double quotes. Quotes, backslashes and the common controls are written
with a backslash, and a character without a glyph of its own by its number in braces.
-/

namespace CommandVerbs.Text

/-- The quoted form of one character. -/
def quotedChar (c : Char) : String :=
  match c with
  | '\x00' => "\\0"
  | '\t' => "\\t"
  | '\r' => "\\r"
  | '\n' => "\\n"
  | '"' => "\\\""
  | '\\' => "\\\\"
  | c => if isUnseen c then "\\u\x7b" ++ hex c.toNat ++ "\x7d" else c.toString

/-- The text between double quotes. -/
def quoted (s : String) : String :=
  "\"" ++ String.join (s.toList.map quotedChar) ++ "\""

end CommandVerbs.Text
