/-!
# Cutting a text at a separator

`segments` cuts at every occurrence of a character, `cut` at the first one. Both work on the
characters of a text; `lines` additionally forgets the carriage return of a line ending.
-/

namespace CommandVerbs.Text

/-- The pieces between the occurrences of `sep`; there is always at least one. -/
def segments (sep : Char) : List Char → List (List Char)
  | [] => [[]]
  | c :: rest =>
    if c = sep then [] :: segments sep rest
    else match segments sep rest with
      | [] => [[c]]
      | piece :: pieces => (c :: piece) :: pieces

/-- The characters before and after the first occurrence of `sep`. -/
def cut (sep : Char) : List Char → Option (List Char × List Char)
  | [] => none
  | c :: rest =>
    if c = sep then some ([], rest)
    else (cut sep rest).map fun (before, after) => (c :: before, after)

/-- The texts between the occurrences of `sep`. -/
def splitAt (sep : Char) (s : String) : List String :=
  (segments sep s.toList).map String.ofList

/-- The texts before and after the first occurrence of `sep`. -/
def cutAt (sep : Char) (s : String) : Option (String × String) :=
  (cut sep s.toList).map fun (before, after) => (String.ofList before, String.ofList after)

/-- The line without a carriage return at its end. -/
def dropReturn (line : List Char) : List Char :=
  match line.reverse with
  | '\r' :: rest => rest.reverse
  | _ => line

/-- The lines of a text. A line ends with a line feed, or a carriage return and a line feed; what
follows the last line feed is a line if it is not empty, and keeps its carriage return. -/
def lineChars (s : List Char) : List (List Char) :=
  let pieces := segments '\n' s
  let closed := pieces.dropLast.map dropReturn
  match pieces.getLast? with
  | none | some [] => closed
  | some last => closed ++ [last]

/-- The lines of a text. -/
def lines (s : String) : List String :=
  (lineChars s.toList).map String.ofList

end CommandVerbs.Text
