/-!
# Blank characters and trimming

A character is blank when Unicode gives it the property White_Space. Trimming removes blanks from
the ends of a text and keeps those inside.
-/

namespace CommandVerbs.Text

/-- Whether the character has the Unicode property White_Space. -/
def isBlank (c : Char) : Bool :=
  let n := c.toNat
  (0x9 ≤ n && n ≤ 0xD) || n == 0x20 || n == 0x85 || n == 0xA0 || n == 0x1680 ||
    (0x2000 ≤ n && n ≤ 0x200A) || n == 0x2028 || n == 0x2029 || n == 0x202F || n == 0x205F ||
    n == 0x3000

/-- The characters from the first that is not blank. -/
def dropBlanks (s : List Char) : List Char :=
  s.dropWhile isBlank

/-- The characters up to the last that is not blank. -/
def dropBlanksEnd (s : List Char) : List Char :=
  (dropBlanks s.reverse).reverse

/-- The characters without the blanks at either end. -/
def trimChars (s : List Char) : List Char :=
  dropBlanksEnd (dropBlanks s)

/-- The text without the blanks at either end. -/
def trim (s : String) : String :=
  String.ofList (trimChars s.toList)

/-- The text without the blanks at its end. -/
def trimEnd (s : String) : String :=
  String.ofList (dropBlanksEnd s.toList)

end CommandVerbs.Text
