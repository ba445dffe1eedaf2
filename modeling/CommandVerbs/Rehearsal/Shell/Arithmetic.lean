/-!
# Arithmetic in shell scripts

Integer expressions over 64-bit words, with variables and assignments. Of the logical operators only
those operands are evaluated that decide the value.
-/

namespace CommandVerbs.Shell.Arithmetic

inductive Operator where
  | multiply | divide | remainder
  | add | subtract
  | shiftLeft | shiftRight
  | less | lessEqual | greater | greaterEqual
  | equal | different
  | bitAnd | bitXor | bitOr
  deriving DecidableEq, Repr, Inhabited

inductive Expression where
  | number (value : Int)
  | named (name : String)
  | negative (operand : Expression)
  | complement (operand : Expression)
  | not (operand : Expression)
  | binary (operator : Operator) (left right : Expression)
  | both (left right : Expression)
  | either (left right : Expression)
  | choice (test yes no : Expression)
  /-- stores the value, after combining it with the old one if there is an operator -/
  | assign (name : String) (operator : Option Operator) (value : Expression)
  deriving Repr, Inhabited

/-- The value as a signed word of 64 bits. -/
def wrap (n : Int) : Int :=
  n.bmod 0x10000000000000000

def truth (b : Bool) : Int :=
  if b then 1 else 0

/-- Applies an operator to words. Nothing comes of a division by zero. -/
def Operator.result? (operator : Operator) (a b : Int) : Option Int :=
  let words := fun (f : UInt64 → UInt64 → UInt64) =>
    some (wrap (f (UInt64.ofInt a) (UInt64.ofInt b)).toNat)
  match operator with
  | .multiply => some (wrap (a * b))
  | .divide => if b = 0 then none else some (wrap (a.tdiv b))
  | .remainder => if b = 0 then none else some (wrap (a.tmod b))
  | .add => some (wrap (a + b))
  | .subtract => some (wrap (a - b))
  | .shiftLeft => words fun a b => a <<< b
  | .shiftRight => some (a >>> (b % 64).toNat)
  | .less => some (truth (a < b))
  | .lessEqual => some (truth (a ≤ b))
  | .greater => some (truth (a > b))
  | .greaterEqual => some (truth (a ≥ b))
  | .equal => some (truth (a = b))
  | .different => some (truth (a ≠ b))
  | .bitAnd => words fun a b => a &&& b
  | .bitXor => words fun a b => a ^^^ b
  | .bitOr => words fun a b => a ||| b

/-- The value of a digit in any base up to sixteen. -/
def digitValue? (c : Char) : Option Nat :=
  if '0' ≤ c ∧ c ≤ '9' then some (c.toNat - '0'.toNat)
  else if 'a' ≤ c ∧ c ≤ 'f' then some (c.toNat - 'a'.toNat + 10)
  else if 'A' ≤ c ∧ c ≤ 'F' then some (c.toNat - 'A'.toNat + 10)
  else none

/-- The value of digits in a base. -/
def natural? (base : Nat) (value : Nat) : List Char → Option Nat
  | [] => some value
  | c :: rest =>
    ((digitValue? c).filter (· < base)).bind fun d => natural? base (value * base + d) rest

/-- The value of a constant: decimal, after a zero octal, after a zero and an x hexadecimal. -/
def constant? : List Char → Option Nat
  | [] => none
  | ['0'] => some 0
  | '0' :: 'x' :: digits | '0' :: 'X' :: digits =>
    if digits.isEmpty then none else natural? 16 0 digits
  | '0' :: digits => natural? 8 0 digits
  | digits => natural? 10 0 digits

/-- The value of a variable's text, with a sign and blanks around it. -/
def valueOf? (text : String) : Option Int :=
  let trimmed := (text.toList.dropWhile Char.isWhitespace).reverse.dropWhile Char.isWhitespace
  match trimmed.reverse with
  | [] => some 0
  | '-' :: digits => (constant? digits).map fun n => wrap (-(n : Int))
  | '+' :: digits => (constant? digits).map fun n => wrap n
  | digits => (constant? digits).map fun n => wrap n

inductive Token where
  | constant (value : Nat)
  | name (text : String)
  | mark (text : String)
  deriving DecidableEq, Repr, Inhabited

/-- The marks, the longer ones first. -/
def marks : List String :=
  ["<<=", ">>=", "<=", ">=", "==", "!=", "&&", "||", "<<", ">>", "+=", "-=", "*=", "/=", "%=", "&=",
    "|=", "^=", "+", "-", "*", "/", "%", "<", ">", "=", "!", "~", "&", "^", "|", "?", ":", "(", ")"]

/-- The tokens of an expression. -/
def tokens? : (fuel : Nat) → List Char → Option (List Token)
  | 0, _ => none
  | _, [] => some []
  | fuel + 1, c :: rest =>
    if c.isWhitespace then tokens? fuel rest
    else if c.isDigit then
      let text := c :: rest.takeWhile Char.isAlphanum
      (constant? text).bind fun n =>
        (tokens? fuel (rest.dropWhile Char.isAlphanum)).map (.constant n :: ·)
    else if c.isAlpha || c == '_' then
      let inName := fun (c : Char) => c.isAlphanum || c == '_'
      (tokens? fuel (rest.dropWhile inName)).map
        (.name (String.ofList (c :: rest.takeWhile inName)) :: ·)
    else
      match marks.find? fun mark => mark.toList.isPrefixOf (c :: rest) with
      | some mark =>
        (tokens? fuel ((c :: rest).drop mark.length)).map (.mark mark :: ·)
      | none => none

/-- The operators by how tightly they bind, the loosest first. -/
def levels : List (List (String × Operator)) :=
  [[("|", .bitOr)], [("^", .bitXor)], [("&", .bitAnd)],
    [("==", .equal), ("!=", .different)],
    [("<", .less), ("<=", .lessEqual), (">", .greater), (">=", .greaterEqual)],
    [("<<", .shiftLeft), (">>", .shiftRight)],
    [("+", .add), ("-", .subtract)],
    [("*", .multiply), ("/", .divide), ("%", .remainder)]]

/-- The operator of an assignment by its mark. -/
def assignmentOperator? (mark : String) : Option (Option Operator) :=
  if mark = "=" then some none
  else if ["<=", ">=", "==", "!="].contains mark then none
  else match mark.toList.reverse with
    | '=' :: operator =>
      ((levels.flatten.find? fun entry => entry.1 = String.ofList operator.reverse).map (·.2)).map
        some
    | _ => none

mutual

/-- An assignment or a choice, and the tokens after it. -/
def readExpression : (fuel : Nat) → List Token → Option (Expression × List Token)
  | 0, _ => none
  | fuel + 1, tokens =>
    let assignment? := match tokens with
      | .name name :: .mark mark :: rest =>
        (assignmentOperator? mark).map fun operator => (name, operator, rest)
      | _ => none
    match assignment? with
    | some (name, operator, rest) => do
      let (value, rest) ← readExpression fuel rest
      return (.assign name operator value, rest)
    | none => do
      let (test, rest) ← readEither fuel tokens
      match rest with
      | .mark "?" :: rest =>
        let (yes, rest) ← readExpression fuel rest
        match rest with
        | .mark ":" :: rest =>
          let (no, rest) ← readExpression fuel rest
          return (.choice test yes no, rest)
        | _ => none
      | rest => return (test, rest)

/-- Operands of which one has to be true, and the tokens after them. -/
def readEither : (fuel : Nat) → List Token → Option (Expression × List Token)
  | 0, _ => none
  | fuel + 1, tokens => do
    let (left, rest) ← readBoth fuel tokens
    match rest with
    | .mark "||" :: rest =>
      let (right, rest) ← readEither fuel rest
      return (.either left right, rest)
    | rest => return (left, rest)

/-- Operands that have to be true, and the tokens after them. -/
def readBoth : (fuel : Nat) → List Token → Option (Expression × List Token)
  | 0, _ => none
  | fuel + 1, tokens => do
    let (left, rest) ← readBinary fuel levels tokens
    match rest with
    | .mark "&&" :: rest =>
      let (right, rest) ← readBoth fuel rest
      return (.both left right, rest)
    | rest => return (left, rest)

/-- Operands joined by the operators of some levels, and the tokens after them. -/
def readBinary : (fuel : Nat) → List (List (String × Operator)) → List Token →
    Option (Expression × List Token)
  | 0, _, _ => none
  | fuel + 1, [], tokens => readUnary fuel tokens
  | fuel + 1, level :: tighter, tokens => do
    let (left, rest) ← readBinary fuel tighter tokens
    readBinaryFrom fuel level tighter left rest

/-- The operators of a level that follow an operand, with what they are applied to. -/
def readBinaryFrom : (fuel : Nat) → List (String × Operator) → List (List (String × Operator)) →
    Expression → List Token → Option (Expression × List Token)
  | 0, _, _, _, _ => none
  | fuel + 1, level, tighter, left, tokens =>
    match tokens with
    | .mark mark :: rest =>
      match level.find? (·.1 == mark) with
      | some (_, operator) => do
        let (right, rest) ← readBinary fuel tighter rest
        readBinaryFrom fuel level tighter (.binary operator left right) rest
      | none => some (left, tokens)
    | _ => some (left, tokens)

/-- A single operand, and the tokens after it. -/
def readUnary : (fuel : Nat) → List Token → Option (Expression × List Token)
  | 0, _ => none
  | fuel + 1, tokens =>
    match tokens with
    | .constant n :: rest => some (.number (wrap n), rest)
    | .name name :: rest => some (.named name, rest)
    | .mark "+" :: rest => readUnary fuel rest
    | .mark "-" :: rest => (readUnary fuel rest).map fun (e, rest) => (.negative e, rest)
    | .mark "~" :: rest => (readUnary fuel rest).map fun (e, rest) => (.complement e, rest)
    | .mark "!" :: rest => (readUnary fuel rest).map fun (e, rest) => (.not e, rest)
    | .mark "(" :: rest =>
      match readExpression fuel rest with
      | some (e, .mark ")" :: rest) => some (e, rest)
      | _ => none
    | _ => none

end

/-- The expression of a text. -/
def Expression.ofText? (text : String) : Option Expression :=
  (tokens? (text.length + 1) text.toList).bind fun tokens =>
    match readExpression (16 * (tokens.length + 1)) tokens with
    | some (e, []) => some e
    | _ => none

/-- The text of a variable. -/
abbrev Variables := List (String × String)

/-- The value of an expression, and the variables after its assignments. -/
def Expression.value? : Expression → Variables → Option (Int × Variables)
  | .number value, v => some (value, v)
  | .named name, v =>
    match (v.lookup name).map valueOf? with
    | none => some (0, v)
    | some value => value.map (·, v)
  | .negative e, v => (e.value? v).map fun (n, v) => (wrap (-n), v)
  | .complement e, v => (e.value? v).map fun (n, v) => (-n - 1, v)
  | .not e, v => (e.value? v).map fun (n, v) => (truth (n = 0), v)
  | .binary operator left right, v => do
    let (a, v) ← left.value? v
    let (b, v) ← right.value? v
    return (← operator.result? a b, v)
  | .both left right, v => do
    let (a, v) ← left.value? v
    if a = 0 then return (0, v)
    let (b, v) ← right.value? v
    return (truth (b ≠ 0), v)
  | .either left right, v => do
    let (a, v) ← left.value? v
    if a ≠ 0 then return (1, v)
    let (b, v) ← right.value? v
    return (truth (b ≠ 0), v)
  | .choice test yes no, v => do
    let (a, v) ← test.value? v
    if a ≠ 0 then yes.value? v else no.value? v
  | .assign name operator value, v => do
    let (b, v) ← value.value? v
    let n ← match operator with
      | none => some b
      | some operator =>
        ((v.lookup name).map valueOf?).getD (some 0) |>.bind fun a => operator.result? a b
    return (n, (name, toString n) :: v.filter (·.1 != name))

end CommandVerbs.Shell.Arithmetic
