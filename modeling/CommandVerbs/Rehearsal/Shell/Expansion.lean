import CommandVerbs.Rehearsal.Shell.Interpreter
import CommandVerbs.Rehearsal.Shell.Pattern

/-!
# Expansions in shell scripts

What words stand for when they are used. A value that is not quoted is split into fields at blanks, or
at the characters of the variable `IFS`.
-/

namespace CommandVerbs.Shell

/-- A piece of what a word stands for. -/
inductive Piece where
  | quoted (text : String)
  | bare (text : String)
  /-- a value that is split -/
  | value (text : String)
  /-- the end of a field -/
  | fieldEnd
  /-- no field, although there are quotes -/
  | absent
  deriving DecidableEq, Repr

namespace Piece

/-- A value, which is split unless it is quoted. -/
def ofValue (inQuotes : Bool) (text : String) : Piece :=
  if inQuotes then .quoted text else .value text

/-- The piece as part of a value. -/
def within (inQuotes : Bool) : Piece → Piece
  | .bare text | .value text => ofValue inQuotes text
  | piece => piece

/-- The characters of a piece, with whether they are quoted. -/
def marked : Piece → List Marked
  | .quoted text => text.toList.map (·, true)
  | .bare text | .value text => text.toList.map (·, false)
  | .fieldEnd => [(' ', false)]
  | .absent => []

end Piece

/-- The text of pieces that are not split. -/
def joined (pieces : List Piece) : String :=
  String.ofList ((pieces.flatMap Piece.marked).map (·.1))

/-- Fields in the making: those that are complete, and the one that is not. -/
structure Fields where
  complete : List String := []
  current : Option String := none
  /-- the last complete field ended at a blank, which the next separator may follow -/
  afterBlank : Bool := false

namespace Fields

/-- Ends a field, if there is one. -/
def close (f : Fields) : Fields :=
  { complete := f.complete ++ f.current.toList, afterBlank := f.afterBlank || f.current.isSome }

def add (f : Fields) (text : String) : Fields :=
  { f with current := some (f.current.getD "" ++ text), afterBlank := false }

/-- Ends a field at a separator that is no blank; before it there is a field, if only an empty one. -/
def separate (f : Fields) : Fields :=
  if f.afterBlank then { f with afterBlank := false }
  else { complete := f.complete ++ [f.current.getD ""] }

/-- Adds a value, which is split at some characters. -/
def addValue (separators : List Char) (f : Fields) (text : String) : Fields :=
  text.toList.foldl
    (fun f c =>
      if !separators.contains c then f.add c.toString
      else if c.isWhitespace then f.close
      else f.separate) f

def addPiece (separators : List Char) (f : Fields) : Piece → Fields
  | .quoted text | .bare text => f.add text
  | .value text => f.addValue separators text
  | .fieldEnd => f.close
  | .absent => f

end Fields

/-- The fields that pieces come to. -/
def fieldsOf (separators : List Char) (pieces : List Piece) : List String :=
  if pieces.contains .absent && pieces.all fun p => p == .absent || p == .quoted "" then []
  else (pieces.foldl (Fields.addPiece separators) {}).close.complete

/-- The characters at which values are split. -/
def separators : Run (List Char) := do
  return (((← get).lookup? "IFS").map String.toList).getD [' ', '\t', '\n']

/-- The arguments of the script as pieces: one field for each if the name or the lack of quotes asks for
it. -/
def argumentPieces (name : String) (inQuotes : Bool) : Run (List Piece) := do
  let arguments := (← get).arguments
  if name = "*" && inQuotes then return [.quoted (" ".intercalate arguments)]
  else if arguments.isEmpty then return [.absent]
  else return (arguments.map fun a => [Piece.ofValue inQuotes a]).intersperse [.fieldEnd] |>.flatten

/-- What stands between braces: a name, and what is to be done with its value. -/
structure ParameterUse where
  name : String
  /-- the number of characters is meant -/
  counted : Bool := false
  /-- an empty value is none -/
  emptyIsNone : Bool := false
  operator : String := ""
  word : String := ""

namespace ParameterUse

/-- What follows the name of a parameter. -/
def withOperator? (name : String) : List Char → Option ParameterUse
  | [] => some { name }
  | ':' :: c :: word =>
    if ['-', '=', '?', '+'].contains c then
      some { name, emptyIsNone := true, operator := c.toString, word := String.ofList word }
    else none
  | '%' :: '%' :: word => some { name, operator := "%%", word := String.ofList word }
  | '#' :: '#' :: word => some { name, operator := "##", word := String.ofList word }
  | c :: word =>
    if ['-', '=', '?', '+', '%', '#'].contains c then
      some { name, operator := c.toString, word := String.ofList word }
    else none

def ofText? (text : String) : Option ParameterUse :=
  match text.toList with
  | [] => none
  | '#' :: c :: rest =>
    if (startsName c && rest.all inName) || (isSpecial c && rest.isEmpty) then
      some { name := String.ofList (c :: rest), counted := true }
    else withOperator? "#" (c :: rest)
  | c :: rest =>
    if startsName c then
      withOperator? (String.ofList (c :: rest.takeWhile inName)) (rest.dropWhile inName)
    else if c.isDigit then
      withOperator? (String.ofList (c :: rest.takeWhile Char.isDigit)) (rest.dropWhile Char.isDigit)
    else if isSpecial c then withOperator? c.toString rest
    else none

end ParameterUse

/-- The value of an arithmetic expression, given without expansions. -/
def calculate (expression : String) : Run String := do
  match (Arithmetic.Expression.ofText? expression).bind (·.value? (← get).bindings) with
  | none => refuse
  | some (n, bindings) =>
    modify fun i => { i with bindings }
    return toString n

/-- The word with the home directory in place of a tilde that stands first. -/
def withHome : Word → Word
  | .bare "~" :: rest =>
    match rest with
    | [] => [.parameter "HOME" true]
    | .bare "/" :: _ => .parameter "HOME" true :: rest
    | rest => .bare "~" :: rest
  | word => word

/-- What a word stands for; `outputOf` gives the output of a script. -/
def expand (outputOf : String → Run String) : (fuel : Nat) → Word → Run (List Piece)
  | 0, _ => refuse
  | fuel + 1, word => do
    let wordPieces := fun (inQuotes : Bool) (text : String) => do
      match wordOf? (if inQuotes then .within else .plain) text with
      | none => refuse
      | some word => return (← expand outputOf fuel word).map (Piece.within inQuotes)
    let applied := fun (inQuotes : Bool) (p : ParameterUse) => do
      let value := (← get).parameter? p.name
      let present := value.filter fun v => !(p.emptyIsNone && v.isEmpty)
      let pattern := do return (← wordPieces false p.word).flatMap Piece.marked
      match p.operator, present with
      | "-", none => wordPieces inQuotes p.word
      | "+", none => return []
      | "+", some _ => wordPieces inQuotes p.word
      | "?", none => refuse
      | "=", none =>
        let assigned := joined (← wordPieces inQuotes p.word)
        assign p.name assigned
        return [Piece.ofValue inQuotes assigned]
      | "%", some v =>
        return [Piece.ofValue inQuotes (String.ofList (withoutEnd (← pattern) false v.toList))]
      | "%%", some v =>
        return [Piece.ofValue inQuotes (String.ofList (withoutEnd (← pattern) true v.toList))]
      | "#", some v =>
        return [Piece.ofValue inQuotes (String.ofList (withoutStart (← pattern) false v.toList))]
      | "##", some v =>
        return [Piece.ofValue inQuotes (String.ofList (withoutStart (← pattern) true v.toList))]
      | _, some v => return [Piece.ofValue inQuotes v]
      | _, none => if (← get).needsValues then refuse else return [Piece.ofValue inQuotes ""]
    let pieces ← word.mapM fun
      | .quoted text => return [Piece.quoted text]
      | .bare text => return [Piece.bare text]
      | .arithmetic expression inQuotes => do
        match wordOf? .document expression with
        | none => refuse
        | some word =>
          let text := joined (← expand outputOf fuel word)
          return [Piece.ofValue inQuotes (← calculate text)]
      | .output script inQuotes => do
        let output ← outputOf script
        let text := (output.toList.reverse.dropWhile (· == '\n')).reverse
        return [Piece.ofValue inQuotes (String.ofList text)]
      | .parameter text inQuotes => do
        match ParameterUse.ofText? text with
        | none => refuse
        | some p =>
          if p.counted then
            let value ← if p.name = "@" ∨ p.name = "*" then
                pure (toString (← get).arguments.length)
              else pure (toString (((← get).parameter? p.name).getD "").length)
            return [Piece.ofValue inQuotes value]
          else if (p.name = "@" ∨ p.name = "*") ∧ p.operator = "" then
            argumentPieces p.name inQuotes
          else applied inQuotes p
    return pieces.flatten

end CommandVerbs.Shell
