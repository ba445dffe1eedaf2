/-!
# The tokens of a JSON text

A text is cut into tokens from left to right, one character at a time. The contents of a quoted
text are kept as written characters and UTF-16 units, because a unit that stands alone is an error
only where the text is used. An atom is a run of characters that is neither punctuation nor blank;
whether it is a word or a number is decided later.
-/

namespace CommandVerbs.Json

/-- A part of a quoted text: a character, or a UTF-16 unit given by its number. -/
inductive Piece where
  | char (c : Char)
  | unit (code : Nat)
  deriving DecidableEq, Repr

inductive Token where
  | openArray
  | closeArray
  | openObject
  | closeObject
  | colon
  | comma
  | quoted (pieces : List Piece)
  | atom (chars : List Char)
  deriving DecidableEq, Repr

/-- What the lexer is in the middle of; lists are given backwards. -/
inductive Pending where
  | nothing
  | atom (chars : List Char)
  | quoted (pieces : List Piece)
  | escape (pieces : List Piece)
  | code (pieces : List Piece) (digits : Nat) (value : Nat)

/-- The four blanks that may stand between tokens. -/
def isSpace (c : Char) : Bool :=
  c == ' ' || c == '\t' || c == '\n' || c == '\r'

def punctuation? : Char → Option Token
  | '[' => some .openArray
  | ']' => some .closeArray
  | '{' => some .openObject
  | '}' => some .closeObject
  | ':' => some .colon
  | ',' => some .comma
  | _ => none

/-- The character that a backslash and the given letter stand for. -/
def escaped? : Char → Option Char
  | '"' => some '"'
  | '\\' => some '\\'
  | '/' => some '/'
  | 'b' => some '\x08'
  | 'f' => some '\x0c'
  | 'n' => some '\n'
  | 'r' => some '\r'
  | 't' => some '\t'
  | _ => none

def hexDigit? (c : Char) : Option Nat :=
  if '0' ≤ c ∧ c ≤ '9' then some (c.toNat - '0'.toNat)
  else if 'a' ≤ c ∧ c ≤ 'f' then some (c.toNat - 'a'.toNat + 10)
  else if 'A' ≤ c ∧ c ≤ 'F' then some (c.toNat - 'A'.toNat + 10)
  else none

/-- The tokens of `chars`, given what is pending; nothing if a quoted text is malformed. -/
def tokensFrom : Pending → List Char → Option (List Token)
  | .nothing, [] => some []
  | .nothing, c :: rest =>
    if isSpace c then tokensFrom .nothing rest
    else if c = '"' then tokensFrom (.quoted []) rest
    else match punctuation? c with
      | some token => (tokensFrom .nothing rest).map (token :: ·)
      | none => tokensFrom (.atom [c]) rest
  | .atom chars, [] => some [.atom chars.reverse]
  | .atom chars, c :: rest =>
    if isSpace c then (tokensFrom .nothing rest).map (.atom chars.reverse :: ·)
    else if c = '"' then (tokensFrom (.quoted []) rest).map (.atom chars.reverse :: ·)
    else match punctuation? c with
      | some token => (tokensFrom .nothing rest).map (.atom chars.reverse :: token :: ·)
      | none => tokensFrom (.atom (c :: chars)) rest
  | .quoted pieces, c :: rest =>
    if c = '"' then (tokensFrom .nothing rest).map (.quoted pieces.reverse :: ·)
    else if c = '\\' then tokensFrom (.escape pieces) rest
    else if c.toNat < 0x20 then none
    else tokensFrom (.quoted (.char c :: pieces)) rest
  | .escape pieces, c :: rest =>
    if c = 'u' then tokensFrom (.code pieces 0 0) rest
    else match escaped? c with
      | some d => tokensFrom (.quoted (.char d :: pieces)) rest
      | none => none
  | .code pieces digits value, c :: rest =>
    match hexDigit? c with
    | none => none
    | some d =>
      let value := value * 16 + d
      if digits = 3 then tokensFrom (.quoted (.unit value :: pieces)) rest
      else tokensFrom (.code pieces (digits + 1) value) rest
  | .quoted _, [] | .escape _, [] | .code _ _ _, [] => none

/-- The tokens of a text. -/
def tokens (chars : List Char) : Option (List Token) :=
  tokensFrom .nothing chars

end CommandVerbs.Json
