import CommandVerbs.Json.Basic
import CommandVerbs.Json.Lexer
import CommandVerbs.Text.Decimal

/-!
# Reading JSON

Tokens are put together to a tree with a stack of the arrays and objects that are still open; what
the tree's leaves mean is decided when a value is taken from it. So a part that nobody asks for has
to be well written and nothing more, while `Json.ofTree?` also wants paired UTF-16 units, integers
of 64 bits for numbers and a limited depth.
-/

namespace CommandVerbs.Json

/-- A JSON text by its structure, with leaves as they are written. -/
inductive Tree where
  | null
  | bool (value : Bool)
  | number (chars : List Char)
  | quoted (pieces : List Piece)
  | array (items : List Tree)
  | object (entries : List (List Piece × Tree))
  deriving Inhabited

/-- The characters after a run of digits. -/
def dropDigits (s : List Char) : List Char :=
  s.dropWhile fun c => (Text.digit? c).isSome

/-- The characters after at least one digit. -/
def afterDigits? : List Char → Option (List Char)
  | [] => none
  | c :: rest => if (Text.digit? c).isSome then some (dropDigits rest) else none

/-- The characters after the digits of a whole number, which start with a zero only if that is the
only one. -/
def afterWhole? : List Char → Option (List Char)
  | '0' :: rest =>
    match rest with
    | c :: _ => if (Text.digit? c).isSome then none else some rest
    | [] => some rest
  | s => afterDigits? s

/-- The characters after a fraction, which may be absent. -/
def afterFraction? : List Char → Option (List Char)
  | '.' :: rest => afterDigits? rest
  | s => some s

/-- The characters after an exponent, which may be absent. -/
def afterExponent? : List Char → Option (List Char)
  | c :: rest =>
    if c = 'e' ∨ c = 'E' then
      match rest with
      | '+' :: rest | '-' :: rest => afterDigits? rest
      | _ => afterDigits? rest
    else some (c :: rest)
  | [] => some []

/-- Whether the characters are a number. -/
def isNumber (s : List Char) : Bool :=
  let unsigned := match s with
    | '-' :: rest => rest
    | _ => s
  (afterWhole? unsigned >>= afterFraction? >>= afterExponent?) == some []

/-- The leaf that an atom stands for. -/
def atom? (chars : List Char) : Option Tree :=
  if chars = "null".toList then some .null
  else if chars = "true".toList then some (.bool true)
  else if chars = "false".toList then some (.bool false)
  else if isNumber chars then some (.number chars)
  else none

/-- An array or object that is still open, with what it holds so far backwards. -/
inductive Frame where
  | array (items : List Tree)
  | object (entries : List (List Piece × Tree)) (key : List Piece)

/-- What may come next. -/
inductive Need where
  /-- a value -/
  | value
  /-- the first item of an array, or its end -/
  | item
  /-- the first key of an object, or its end -/
  | firstKey
  /-- a key of an object that holds the given fields -/
  | key (entries : List (List Piece × Tree))
  /-- the colon after a key -/
  | colon (entries : List (List Piece × Tree)) (key : List Piece)
  /-- a comma or the end of what is open, after the given value -/
  | next (value : Tree)

/-- Reads tokens, given what is open and what is needed. -/
def treeFrom : List Frame → Need → List Token → Option Tree
  | [], .next value, [] => some value
  | _, _, [] => none
  | stack, .value, .openArray :: rest => treeFrom (.array [] :: stack) .item rest
  | stack, .item, .openArray :: rest => treeFrom (.array [] :: stack) .item rest
  | stack, .value, .openObject :: rest => treeFrom stack .firstKey rest
  | stack, .item, .openObject :: rest => treeFrom stack .firstKey rest
  | stack, .value, .quoted pieces :: rest => treeFrom stack (.next (.quoted pieces)) rest
  | stack, .item, .quoted pieces :: rest => treeFrom stack (.next (.quoted pieces)) rest
  | stack, .value, .atom chars :: rest =>
    match atom? chars with
    | some leaf => treeFrom stack (.next leaf) rest
    | none => none
  | stack, .item, .atom chars :: rest =>
    match atom? chars with
    | some leaf => treeFrom stack (.next leaf) rest
    | none => none
  | .array items :: stack, .item, .closeArray :: rest =>
    treeFrom stack (.next (.array items.reverse)) rest
  | stack, .firstKey, .closeObject :: rest => treeFrom stack (.next (.object [])) rest
  | stack, .firstKey, .quoted pieces :: rest => treeFrom stack (.colon [] pieces) rest
  | stack, .key entries, .quoted pieces :: rest => treeFrom stack (.colon entries pieces) rest
  | stack, .colon entries key, .colon :: rest => treeFrom (.object entries key :: stack) .value rest
  | .array items :: stack, .next value, .comma :: rest =>
    treeFrom (.array (value :: items) :: stack) .value rest
  | .array items :: stack, .next value, .closeArray :: rest =>
    treeFrom stack (.next (.array (value :: items).reverse)) rest
  | .object entries key :: stack, .next value, .comma :: rest =>
    treeFrom stack (.key ((key, value) :: entries)) rest
  | .object entries key :: stack, .next value, .closeObject :: rest =>
    treeFrom stack (.next (.object ((key, value) :: entries).reverse)) rest
  | _, _, _ :: _ => none

/-- The structure of a JSON text. -/
def tree? (chars : List Char) : Option Tree :=
  (tokens chars).bind (treeFrom [] .value)

/-- The characters of a quoted text. UTF-16 surrogates have to come in pairs. -/
def characters? : List Piece → Option (List Char)
  | [] => some []
  | .char c :: rest => (characters? rest).map (c :: ·)
  | .unit code :: rest =>
    if code < 0xD800 ∨ 0xDFFF < code then (characters? rest).map (Char.ofNat code :: ·)
    else if 0xDBFF < code then none
    else match rest with
      | .unit low :: rest =>
        if 0xDC00 ≤ low ∧ low ≤ 0xDFFF then
          (characters? rest).map
            (Char.ofNat (0x10000 + (code - 0xD800) * 0x400 + (low - 0xDC00)) :: ·)
        else none
      | _ => none

/-- The text of a quoted text. -/
def string? (pieces : List Piece) : Option String :=
  (characters? pieces).map String.ofList

/-- An integer as JSON writes it; a negative zero is none. -/
def wholeNumber? (chars : List Char) : Option Int :=
  match chars with
  | '-' :: rest => (Text.digits? rest).bind fun n => if n = 0 then none else some (-(n : Int))
  | _ => (Text.digits? chars).map Int.ofNat

/-- An integer of 64 bits, signed or unsigned. -/
def integer64? (chars : List Char) : Option Int :=
  (wholeNumber? chars).filter fun n => -0x8000000000000000 ≤ n && n ≤ 0xFFFFFFFFFFFFFFFF

mutual

/-- The value of a tree with fewer than `depth` arrays and objects inside one another. -/
def ofTree? (depth : Nat) : Tree → Option Json
  | .null => some .null
  | .bool b => some (.bool b)
  | .number chars => (integer64? chars).map .number
  | .quoted pieces => (string? pieces).map .text
  | .array items =>
    match depth with
    | 0 | 1 => none
    | depth + 1 => (ofItems? depth items).map .array
  | .object entries =>
    match depth with
    | 0 | 1 => none
    | depth + 1 => (ofEntries? depth entries).map object

/-- The values of the items of an array. -/
def ofItems? (depth : Nat) : List Tree → Option (List Json)
  | [] => some []
  | item :: rest =>
    (ofTree? depth item).bind fun value => (ofItems? depth rest).map (value :: ·)

/-- The fields of an object, in written order. -/
def ofEntries? (depth : Nat) : List (List Piece × Tree) → Option (List (String × Json))
  | [] => some []
  | (key, item) :: rest =>
    (string? key).bind fun key =>
      (ofTree? depth item).bind fun value => (ofEntries? depth rest).map ((key, value) :: ·)

end

/-- Arrays and objects may stand inside one another up to this depth, less one. -/
def depthLimit : Nat := 128

end CommandVerbs.Json
