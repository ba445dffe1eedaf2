import CommandVerbs.Console.LogFilter.Pattern
import CommandVerbs.Session.Diagnostic
import CommandVerbs.Text.LetterCase
import CommandVerbs.Text.Split
import CommandVerbs.Text.Utf8

/-!
# Rules of log filters

A rule is written `SOURCE[SECTION{DETAIL=VALUE}]=LEVEL`, where every part may be missing but not all
of them: from which severity on diagnostics are shown whose source starts in a certain way and which
tell a certain detail. A rule for a section of the program, or for the value of a detail, concerns
sections alone; as the program has none, it shows nothing. A level that stands alone is a rule for
everything, and a source that stands alone shows all that it has.
-/

namespace CommandVerbs

/-- From which severity on diagnostics are shown; none of them without one. -/
structure LogRule where
  /-- how the names of the sources start -/
  source : String := ""
  /-- the detail that a diagnostic has to tell -/
  detail : Option String := none
  level : Option Severity
  deriving DecidableEq, Repr, Inhabited

namespace LogRule

/-- Whether the rule is for a diagnostic. -/
def concerns (r : LogRule) (d : Diagnostic) : Bool :=
  r.source.toList.isPrefixOf d.source.toList && r.detail.all d.tells

/-- Whether the rule is as specific as another one or more so: by the length of the source, then by
whether there is a detail, then by the name of the detail. -/
def atLeast (r other : LogRule) : Bool :=
  let length := r.source.utf8ByteSize
  let otherLength := other.source.utf8ByteSize
  otherLength < length || (otherLength == length &&
    match r.detail, other.detail with
    | _, none => true
    | none, some _ => false
    | some detail, some otherDetail => otherDetail ≤ detail)

/-- The levels by name or number. There is nothing that only the last one shows. -/
def level? (word : List Char) : Option (Option Severity) :=
  let named := fun name => Text.sameIgnoringAsciiCase name (String.ofList word)
  match Text.natural? 5 word with
  | some 0 => some none
  | some 1 => some (some .error)
  | some 2 => some (some .warn)
  | some 3 => some (some .info)
  | some _ => some (some .debug)
  | none =>
    if named "off" then some none
    else if named "error" then some (some .error)
    else if named "warn" then some (some .warn)
    else if named "info" then some (some .info)
    else if named "debug" || named "trace" then some (some .debug)
    else none

/-- What a rule says, before it is known whether it concerns anything. -/
structure Statement where
  source : Option (List Char) := none
  inSection : Bool := false
  detail : Option (List Char) := none
  /-- a value is demanded of the detail -/
  compared : Bool := false
  level : Option Severity := some .debug

/-- The rule of a statement, unless it is for sections alone. -/
def ofStatement? (s : Statement) : Option LogRule :=
  if s.inSection || s.compared then none
  else some
    { source := String.ofList (s.source.getD []), detail := s.detail.map String.ofList
      level := s.level }

/-- Whether a rule may start with a character. -/
def mayStart (c : Char) : Bool :=
  c == '-' || c == ':' || c == '_' || Text.isAlphanumeric c

/-- The characters between two positions of a text, which count bytes. -/
def between? (text : List Char) (start stop : Nat) : Option (List Char) :=
  Text.Utf8.decode (((Text.Utf8.encode text).take stop).drop start)

/-- A text whose marks are looked for. Blanks at its start do not count when a mark is looked for, but
they do when the text before or after a mark is taken. -/
structure Marked where
  text : List Char
  /-- the text without the blanks at its ends -/
  trimmed : List Char

namespace Marked

def ofText (text : List Char) : Marked :=
  ⟨text, Text.trimChars text⟩

/-- The position of what is left of the trimmed text. -/
def position (m : Marked) (left : List Char) : Nat :=
  (Text.Utf8.encode m.trimmed).length - (Text.Utf8.encode left).length

/-- The text from where `start` is left to where `stop` is left. -/
def span? (m : Marked) (start stop : List Char) : Option (List Char) :=
  between? m.text (m.position start) (m.position stop)

/-- The text from where `start` is left to the end. -/
def rest? (m : Marked) (start : List Char) : Option (List Char) :=
  between? m.text (m.position start) (Text.Utf8.encode m.text).length

/-- What is left from the first of some marks on. -/
def seek (marks : List Char) (left : List Char) : List Char :=
  left.dropWhile fun c => !marks.contains c

/-- Completes a statement with the level after an equals sign. -/
def withLevel? (m : Marked) (s : Statement) (left : List Char) : Option Statement := do
  let word ← m.rest? left
  if word.isEmpty then return s else return { s with level := ← level? word }

/-- Completes a statement with what follows the bracket that closes a section. -/
def afterSection? (m : Marked) (s : Statement) : List Char → Option Statement
  | [] => some s
  | '=' :: left => m.withLevel? s left
  | _ => none

/-- Completes a statement with a detail, which a value may be demanded of. -/
def withDetail? (s : Statement) (field : List Char) : Option Statement :=
  match Text.segments '=' field with
  | _ :: value :: _ =>
    if LogPattern.isComparable value then
      some { s with detail := some (field.takeWhile (· != '=')), compared := true }
    else none
  | _ => if field.isEmpty then none else some { s with detail := some field }

/-- Completes a statement with a section, given after its opening bracket. -/
def withSection? (m : Marked) (s : Statement) (left : List Char) : Option Statement := do
  match seek [']', '\x7b'] left with
  | [] => none
  | ']' :: after => m.afterSection? { s with inSection := true } after
  | stop@(_ :: inner) =>
    let name ← m.span? left stop
    match seek ['\x7d'] inner with
    | stop@(_ :: ']' :: after) =>
      let s ← withDetail? { s with inSection := !name.isEmpty } (← m.span? inner stop)
      m.afterSection? s after
    | _ => none

/-- What a text says. -/
def statement? (m : Marked) : Option Statement := do
  match m.trimmed with
  | '[' :: left => m.withSection? {} left
  | trimmed =>
    if !trimmed.head?.any mayStart then none
    else match seek ['=', '['] trimmed with
      | [] =>
        match level? m.text with
        | some level => return { level }
        | none => return { source := some m.text }
      | stop@(mark :: left) =>
        let s : Statement := { source := some (← m.span? trimmed stop) }
        if mark = '=' then m.withLevel? s left else m.withSection? s left

end Marked

/-- The rules that a text without commas asks for; nothing if it makes no sense. -/
def ofText? (text : String) : Option (List LogRule) :=
  (Marked.ofText text.toList).statement?.map fun s => (ofStatement? s).toList

end LogRule

end CommandVerbs
