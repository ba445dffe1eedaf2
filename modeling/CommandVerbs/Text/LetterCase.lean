import CommandVerbs.Text.LetterCase.Mappings
import CommandVerbs.Text.LetterCase.Classes

/-!
# Changing letter case

Upper- and lower-casing a whole text by the Unicode mappings. A capital sigma at the end of a word
becomes the final small sigma; no other letter depends on its neighbours.
-/

namespace CommandVerbs.Text

namespace LetterCase

/-- The form of one character by a table of expansions and a table of runs. -/
def mapped (expansions : Array (Nat × List Nat)) (runs : Array Run) (c : Char) : List Char :=
  match expansions.find? (·.1 == c.toNat) with
  | some (_, codes) => codes.map Char.ofNat
  | none =>
    match runs.find? (·.covers c.toNat) with
    | some run => [Char.ofNat (run.partner c.toNat)]
    | none => [c]

/-- The lower-case form of a character that stands alone. -/
def lowerChar (c : Char) : List Char :=
  if c.toNat < 0x80 then [c.toLower] else mapped lowerExpansions lowerRuns c

/-- The upper-case form of a character. -/
def upperChar (c : Char) : List Char :=
  if c.toNat < 0x80 then [c.toUpper] else mapped upperExpansions upperRuns c

/-- Whether the nearest character that is not case-ignorable is a letter with case. -/
def meetsCased (s : List Char) : Bool :=
  match s.dropWhile isIgnorable with
  | [] => false
  | c :: _ => isCased c

/-- Lower-cases the characters that follow `before`, which is given backwards. -/
def lowerAfter (before : List Char) : List Char → List Char
  | [] => []
  | c :: rest =>
    let form :=
      if c = 'Σ' then
        if meetsCased before && !meetsCased rest then ['ς'] else ['σ']
      else lowerChar c
    form ++ lowerAfter (c :: before) rest

end LetterCase

/-- The text in lower case. -/
def lower (s : String) : String :=
  String.ofList (LetterCase.lowerAfter [] s.toList)

/-- The text in upper case. -/
def upper (s : String) : String :=
  String.ofList (s.toList.flatMap LetterCase.upperChar)

/-- Whether two texts differ at most in the case of the letters A to Z. -/
def sameIgnoringAsciiCase (s t : String) : Bool :=
  s.toList.map Char.toLower == t.toList.map Char.toLower

end CommandVerbs.Text
