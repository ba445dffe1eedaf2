import CommandVerbs.Text.Utf8

/-!
# Visible text

What a terminal shows of a text: controls other than blanks and the sequences that steer the terminal
are left out. A blank control that interrupts a sequence is shown and ends it.
-/

namespace CommandVerbs.Text

/-- Where a text stands in the sequences that steer a terminal. -/
inductive Steering where
  /-- outside of all sequences -/
  | plain
  /-- after an escape -/
  | escape
  /-- after an escape and a character that asks for one more -/
  | extended
  /-- within the parameters of a control sequence, which a letter ends -/
  | control
  /-- at the beginning of the parameters of a device control string -/
  | device
  /-- after a parameter of a device control string -/
  | deviceParameters
  /-- between the parameters of a device control string and its final letter -/
  | deviceIntermediate
  /-- within the data of a control string, which a string terminator ends -/
  | data
  /-- within a command to the operating system, which a bell ends -/
  | command
  deriving DecidableEq, Repr

namespace Steering

/-- Whether the character is an ASCII control. -/
def isControl (c : Char) : Bool :=
  c.toNat < 0x20 || c.toNat == 0x7F

/-- Whether the character is a control that a terminal shows as a blank. -/
def isBlankControl (c : Char) : Bool :=
  c == '\t' || c == '\n' || c == '\x0c' || c == '\r'

/-- Whether a terminal shows the character. -/
def shows : Steering → Char → Bool
  | .plain, c => isBlankControl c || !isControl c
  | .escape, c | .extended, c | .control, c => isBlankControl c
  | _, _ => false

/-- Whether the character lies between two others. -/
def within (lo hi c : Char) : Bool :=
  lo ≤ c && c ≤ hi

/-- Whether the last byte of the string terminator is among the bytes of the character. -/
def isTerminator (c : Char) : Bool :=
  (Utf8.encodeChar c).contains 0x9C

/-- Where the text stands after a character that starts no sequence and cancels none. -/
def advance (state : Steering) (c : Char) : Steering :=
  match state with
  | .plain => .plain
  | .escape =>
    if within ' ' '/' c then .extended
    else if c == '[' then .control
    else if c == ']' then .command
    else if c == 'P' then .device
    else if c == 'X' || c == '^' || c == '_' then .data
    else if within '0' '~' c then .plain
    else .escape
  | .extended => if within '0' '~' c then .plain else .extended
  | .control => if within '@' '~' c then .plain else .control
  | .device =>
    if within ' ' '/' c then .deviceIntermediate
    else if c == ':' || within '@' '~' c then .data
    else if within '0' '?' c then .deviceParameters
    else .device
  | .deviceParameters =>
    if within ' ' '/' c then .deviceIntermediate
    else if within '0' '9' c || c == ';' then .deviceParameters
    else if within ':' '~' c then .data
    else .deviceParameters
  | .deviceIntermediate => if within '0' '~' c then .data else .deviceIntermediate
  | .data => if isTerminator c then .plain else .data
  | .command => if c == '\x07' then .plain else .command

/-- Where the text stands after a character that is not shown. -/
def next (state : Steering) (c : Char) : Steering :=
  if c == '\x1b' then .escape
  else if c == '\x18' || c == '\x1a' then .plain
  else state.advance c

end Steering

/-- The characters that a terminal shows. -/
def visibleFrom : Steering → List Char → List Char
  | _, [] => []
  | state, c :: rest =>
    if state.shows c then c :: visibleFrom .plain rest else visibleFrom (state.next c) rest

/-- What is visible of a text. -/
def visible (s : String) : String :=
  String.ofList (visibleFrom .plain s.toList)

/-- The text in bold letters. -/
def bold (s : String) : String :=
  "\x1b[1m" ++ s ++ "\x1b[0m"

/-- The text in bold and underlined letters. -/
def underlined (s : String) : String :=
  "\x1b[1m\x1b[4m" ++ s ++ "\x1b[0m"

end CommandVerbs.Text
