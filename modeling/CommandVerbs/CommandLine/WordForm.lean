import CommandVerbs.Text.Split

/-!
# The forms of words

A word on a command line is known by the dashes that it starts with.
-/

namespace CommandVerbs

/-- The forms of a word on the command line. -/
inductive WordForm where
  /-- two dashes -/
  | separator
  | long (flag : String) (value : Option String)
  | short (flags : List Char)
  | plain
  deriving DecidableEq, Repr, Inhabited

/-- The form of a word; a single dash is plain. -/
def WordForm.of (word : String) : WordForm :=
  match word.toList with
  | ['-', '-'] => .separator
  | '-' :: '-' :: rest =>
    match Text.cut '=' rest with
    | none => .long (String.ofList rest) none
    | some (flag, value) => .long (String.ofList flag) (some (String.ofList value))
  | ['-'] => .plain
  | '-' :: flags => .short flags
  | _ => .plain

/-- Whether a word starts with dashes that mean something. -/
def WordForm.isFlag : WordForm → Bool
  | .long _ _ | .short _ => true
  | .separator | .plain => false

end CommandVerbs
