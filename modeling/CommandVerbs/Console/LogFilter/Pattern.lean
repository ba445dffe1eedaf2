import CommandVerbs.Text.Alphanumeric
import CommandVerbs.Text.Blank
import CommandVerbs.Text.Decimal

/-!
# Patterns for values

Which texts are regular expressions that a log filter may compare a value with. No pattern is ever
matched, since the values belong to sections that the program does not have, but a text that is none
makes its filter senseless. Braces cannot be closed within a pattern, and what would need tables of
Unicode (the classes of letters, word boundaries, and letters without regard to case) is refused
unless Unicode is switched off.
-/

namespace CommandVerbs.LogPattern

/-- What is switched on at a place of a pattern. -/
structure Flags where
  unicode : Bool := true
  caseless : Bool := false
  /-- blanks and comments say nothing -/
  spaced : Bool := false
  deriving DecidableEq, Repr, Inhabited

/-- What an escape stands for. -/
inductive Escaped where
  | character (c : Char)
  | class (negated : Bool)
  | assertion
  deriving DecidableEq, Repr

/-- The value of a digit in base sixteen. -/
def hexDigit? (c : Char) : Option Nat :=
  if '0' ≤ c ∧ c ≤ '9' then some (c.toNat - '0'.toNat)
  else if 'a' ≤ c ∧ c ≤ 'f' then some (c.toNat - 'a'.toNat + 10)
  else if 'A' ≤ c ∧ c ≤ 'F' then some (c.toNat - 'A'.toNat + 10)
  else none

/-- The character that `count` digits in base sixteen number, and what follows them. -/
def numbered? (value : Nat) : (count : Nat) → List Char → Option (Char × List Char)
  | 0, rest => if value.isValidChar then some (Char.ofNat value, rest) else none
  | _ + 1, [] => none
  | count + 1, c :: rest => (hexDigit? c).bind fun d => numbered? (value * 16 + d) count rest

/-- What follows a backslash, and the rest. -/
def escape? (flags : Flags) : List Char → Option (Escaped × List Char)
  | [] => none
  | c :: rest =>
    let character := fun (r : Char × List Char) => (Escaped.character r.1, r.2)
    if c = 'x' then (numbered? 0 2 rest).map character
    else if c = 'u' then (numbered? 0 4 rest).map character
    else if c = 'U' then (numbered? 0 8 rest).map character
    else if ['d', 's', 'w'].contains c then
      if flags.unicode then none else some (.class false, rest)
    else if ['D', 'S', 'W'].contains c then
      if flags.unicode then none else some (.class true, rest)
    else if ['b', 'B', '<', '>'].contains c then
      if flags.unicode then none else some (.assertion, rest)
    else if c = 'A' ∨ c = 'z' then some (.assertion, rest)
    else if c = 'a' then some (.character '\x07', rest)
    else if c = 'f' then some (.character '\x0c', rest)
    else if c = 'n' then some (.character '\n', rest)
    else if c = 'r' then some (.character '\r', rest)
    else if c = 't' then some (.character '\t', rest)
    else if c = 'v' then some (.character '\x0b', rest)
    else if c.isAlphanum || 0x7F < c.toNat then none
    else some (.character c, rest)

/-- One member of a bracketed class, and the rest. -/
def member? (flags : Flags) : List Char → Option (Escaped × List Char)
  | [] => none
  | '\\' :: rest => escape? flags rest
  | c :: rest => some (.character c, rest)

/-- The names of classes of ASCII characters. -/
def asciiClasses : List String :=
  ["alnum", "alpha", "ascii", "blank", "cntrl", "digit", "graph", "lower", "print", "punct", "space",
    "upper", "word", "xdigit"]

/-- What follows a named class of ASCII characters, given after its opening bracket. -/
def afterAsciiClass? : List Char → Option (List Char)
  | ':' :: rest =>
    let name := match rest with
      | '^' :: rest => rest
      | rest => rest
    match name.dropWhile (· != ':') with
    | ':' :: ']' :: after =>
      if asciiClasses.contains (String.ofList (name.takeWhile (· != ':'))) then some after else none
    | _ => none
  | _ => none

/-- What follows the opening of a bracketed class: a bracket that stands first is a member. -/
def afterOpening (s : List Char) : List Char :=
  let s := match s with
    | '^' :: rest => rest
    | s => s
  match s with
  | ']' :: rest => rest
  | '-' :: rest => rest.dropWhile (· == '-')
  | s => s

/-- What follows a bracketed class, of which `depth` brackets are open. -/
def afterClass? (flags : Flags) : (fuel depth : Nat) → List Char → Option (List Char)
  | 0, _, _ => none
  | fuel + 1, depth, s =>
    match s with
    | [] => none
    | '[' :: rest =>
      match afterAsciiClass? rest with
      | some after => afterClass? flags fuel depth after
      | none =>
        if !flags.unicode && rest.head? == some '^' then none
        else afterClass? flags fuel (depth + 1) (afterOpening rest)
    | ']' :: rest => if depth ≤ 1 then some rest else afterClass? flags fuel (depth - 1) rest
    | '&' :: '&' :: rest | '-' :: '-' :: rest | '~' :: '~' :: rest => afterClass? flags fuel depth rest
    | s =>
      match member? flags s with
      | none | some (.assertion, _) => none
      | some (first, after) =>
        match after with
        | '-' :: ']' :: _ | '-' :: '-' :: _ => afterClass? flags fuel depth after
        | '-' :: rest =>
          match first, member? flags rest with
          | .character lo, some (.character hi, after) =>
            if lo ≤ hi then afterClass? flags fuel depth after else none
          | _, _ => none
        | _ => afterClass? flags fuel depth after

/-- Switches flags by their letters; a minus, of which there may be one, switches off. -/
def switch? (flags : Flags) (seen : List Char) (on : Bool) : List Char → Option Flags
  | [] => if seen.head? == some '-' then none else some flags
  | c :: rest =>
    if seen.contains c then none
    else match c with
      | '-' => switch? flags (c :: seen) false rest
      | 'i' => switch? { flags with caseless := on } (c :: seen) on rest
      | 'u' => switch? { flags with unicode := on } (c :: seen) on rest
      | 'x' => switch? { flags with spaced := on } (c :: seen) on rest
      | 'm' | 's' | 'U' | 'R' => switch? flags (c :: seen) on rest
      | _ => none

/-- How a group opens. -/
inductive Opening where
  | group (flags : Flags) (name : Option (List Char))
  /-- no group, but a switch for the rest of the one around it -/
  | switch (flags : Flags)

/-- Whether a text names a group. -/
def isGroupName : List Char → Bool
  | [] => false
  | c :: rest =>
    (c == '_' || (Text.isAlphanumeric c && (Text.digit? c).isNone)) &&
      rest.all fun c => ['_', '.', '[', ']'].contains c || Text.isAlphanumeric c

/-- The opening of a group with a name, given after the angle bracket. -/
def namedOpening? (flags : Flags) (names : List (List Char)) (s : List Char) :
    Option (Opening × List Char) :=
  let name := s.takeWhile (· != '>')
  match s.dropWhile (· != '>') with
  | _ :: rest =>
    if isGroupName name && !names.contains name then some (.group flags (some name), rest) else none
  | [] => none

/-- What follows an opening parenthesis, and the rest. -/
def opening? (flags : Flags) (names : List (List Char)) :
    List Char → Option (Opening × List Char)
  | '?' :: '=' :: _ | '?' :: '!' :: _ | '?' :: '<' :: '=' :: _ | '?' :: '<' :: '!' :: _ => none
  | '?' :: 'P' :: '<' :: rest | '?' :: '<' :: rest => namedOpening? flags names rest
  | '?' :: rest =>
    let letters := rest.takeWhile fun c => c != ':' && c != ')'
    match rest.dropWhile fun c => c != ':' && c != ')' with
    | [] => none
    | ending :: after =>
      match switch? flags [] true letters with
      | none => none
      | some flags =>
        if ending = ':' then some (.group flags none, after)
        else if letters.isEmpty then none
        else some (.switch flags, after)
  | rest => some (.group flags none, rest)

/-- Where the reading of a pattern stands. -/
structure Place where
  flags : Flags := {}
  /-- the flags around the open groups, the innermost first -/
  around : List Flags := []
  /-- the names of the groups so far -/
  names : List (List Char) := []
  /-- there is something that can be repeated -/
  operand : Bool := false

/-- Whether the rest of a pattern makes sense. -/
def accepts : (fuel : Nat) → Place → List Char → Bool
  | 0, _, _ => false
  | fuel + 1, p, s =>
    let folded := p.flags.caseless && p.flags.unicode
    match s with
    | [] => p.around.isEmpty
    | '(' :: rest =>
      match opening? p.flags p.names rest with
      | none => false
      | some (.switch flags, rest) => accepts fuel { p with flags, operand := false } rest
      | some (.group flags name, rest) =>
        accepts fuel
          { flags, around := p.flags :: p.around, names := name.toList ++ p.names, operand := false }
          rest
    | ')' :: rest =>
      match p.around with
      | [] => false
      | flags :: around => accepts fuel { p with flags, around, operand := true } rest
    | '|' :: rest => accepts fuel { p with operand := false } rest
    | '[' :: _ =>
      match afterClass? p.flags (s.length + 1) 0 s with
      | none => false
      | some rest => !folded && accepts fuel { p with operand := true } rest
    | '{' :: _ => false
    | '\\' :: rest =>
      match escape? p.flags rest with
      | none | some (.class true, _) => false
      | some (.character _, rest) => !folded && accepts fuel { p with operand := true } rest
      | some (_, rest) => accepts fuel { p with operand := true } rest
    | c :: rest =>
      if c = '?' ∨ c = '*' ∨ c = '+' then
        p.operand && accepts fuel p (if rest.head? = some '?' then rest.drop 1 else rest)
      else if c = '.' then p.flags.unicode && accepts fuel { p with operand := true } rest
      else if c = '^' ∨ c = '$' then accepts fuel { p with operand := true } rest
      else if p.flags.spaced && Text.isBlank c then accepts fuel p rest
      else if p.flags.spaced && c == '#' then accepts fuel p (rest.dropWhile (· != '\n'))
      else !folded && accepts fuel { p with operand := true } rest

/-- Whether a text without closing braces is a pattern. -/
def isPattern (s : List Char) : Bool :=
  accepts (s.length + 1) {} s

/-- Whether a text starts with at least one digit and holds nothing else but more digits and a point;
the point may also stand first. -/
def isMantissa (s : List Char) : Bool :=
  let digits := fun (s : List Char) => s.all fun c => (Text.digit? c).isSome
  let whole := s.takeWhile (· != '.')
  let fraction := (s.dropWhile (· != '.')).drop 1
  digits whole && digits fraction && !(whole.isEmpty && fraction.isEmpty)

/-- Whether a text is a decimal number, which may be infinite or no number at all. -/
def isNumber (s : List Char) : Bool :=
  let unsigned := fun (s : List Char) => match s with
    | '+' :: rest | '-' :: rest => rest
    | s => s
  let magnitude := unsigned s
  let isExponent := fun (c : Char) => c == 'e' || c == 'E'
  let exponent := match magnitude.dropWhile (!isExponent ·) with
    | [] => true
    | _ :: rest => (Text.digits? (unsigned rest)).isSome
  ["inf", "infinity", "nan"].contains (String.ofList (magnitude.map Char.toLower)) ||
    (isMantissa (magnitude.takeWhile (!isExponent ·)) && exponent)

/-- Whether a filter may compare a value with the text. -/
def isComparable (s : List Char) : Bool :=
  isNumber s || isPattern s

end CommandVerbs.LogPattern
