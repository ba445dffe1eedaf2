import CommandVerbs.Json.Reader

/-!
# Records in JSON

A record is written as an object with a field for each of its members, or as an array of the members
in order. Of an object, a member may be named once; members that the record does not know are passed
over, whatever they hold.
-/

namespace CommandVerbs.Json

/-- The trees of the named members in order, with nothing for a member that is absent; nothing at all
if a member is given twice or an array is too long. -/
def members? (names : List String) : Tree → Option (List (Option Tree))
  | .array items =>
    if items.length ≤ names.length then
      some ((items.map some) ++ List.replicate (names.length - items.length) none)
    else none
  | .object entries => do
    let entries ← entries.mapM fun (key, value) => (string? key).map (·, value)
    names.mapM fun name =>
      match entries.filter (·.1 == name) with
      | [] => some none
      | [entry] => some (some entry.2)
      | _ => none
  | _ => none

/-- An integer between two bounds. -/
def integerIn? (low high : Int) : Tree → Option Int
  | .number chars => (wholeNumber? chars).filter fun n => low ≤ n && n ≤ high
  | _ => none

/-- A text. -/
def textOf? : Tree → Option String
  | .quoted pieces => string? pieces
  | _ => none

/-- What `read` makes of a tree, or nothing where the tree is `null` or absent. -/
def nullable? {α : Type} (read : Tree → Option α) : Option Tree → Option (Option α)
  | none | some .null => some none
  | some tree => (read tree).map some

end CommandVerbs.Json
