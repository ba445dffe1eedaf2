/-!
# Patterns of shell scripts

A star matches any text, a question mark any character, and a bracket one of several characters. In a
pattern every character is marked whether it is quoted and stands for itself.
-/

namespace CommandVerbs.Shell

/-- A character of a pattern, with whether it is quoted. -/
abbrev Marked := Char × Bool

inductive Glob where
  | character (c : Char)
  | any
  | one
  | among (negated : Bool) (ranges : List (Char × Char))
  deriving DecidableEq, Repr

namespace Glob

/-- The ranges of a bracket and what follows it, if it is closed. A bracket that stands first does not
close it. -/
def ranges? (isFirst : Bool) : List Marked → Option (List (Char × Char) × List Marked)
  | [] => none
  | (lo, quoted) :: ('-', false) :: (hi, quotedHi) :: rest =>
    if lo = ']' ∧ !quoted ∧ !isFirst then some ([], ('-', false) :: (hi, quotedHi) :: rest)
    else if hi = ']' ∧ !quotedHi then some ([(lo, lo), ('-', '-')], rest)
    else (ranges? false rest).map fun (ranges, after) => ((lo, hi) :: ranges, after)
  | (c, quoted) :: rest =>
    if c = ']' ∧ !quoted ∧ !isFirst then some ([], rest)
    else (ranges? false rest).map fun (ranges, after) => ((c, c) :: ranges, after)

/-- What a marked text matches. -/
def ofMarked : (fuel : Nat) → List Marked → List Glob
  | 0, _ | _, [] => []
  | fuel + 1, (c, quoted) :: rest =>
    if quoted then .character c :: ofMarked fuel rest
    else match c with
      | '*' => .any :: ofMarked fuel rest
      | '?' => .one :: ofMarked fuel rest
      | '[' =>
        let (negated, inside) := match rest with
          | ('!', false) :: inside | ('^', false) :: inside => (true, inside)
          | inside => (false, inside)
        match ranges? true inside with
        | some (ranges, after) => .among negated ranges :: ofMarked fuel after
        | none => .character '[' :: ofMarked fuel rest
      | c => .character c :: ofMarked fuel rest

/-- Whether a text is matched as a whole. -/
def covers : List Glob → List Char → Bool
  | [], s => s.isEmpty
  | .any :: globs, s =>
    covers globs s || match s with
      | [] => false
      | _ :: rest => covers (.any :: globs) rest
  | _ :: _, [] => false
  | .character d :: globs, c :: rest => c == d && covers globs rest
  | .one :: globs, _ :: rest => covers globs rest
  | .among negated ranges :: globs, c :: rest =>
    (ranges.any fun (lo, hi) => lo ≤ c && c ≤ hi) != negated && covers globs rest
termination_by globs s => globs.length + s.length

end Glob

/-- Whether a marked text, as a pattern, matches a text as a whole. -/
def matchesAll (pattern : List Marked) (s : List Char) : Bool :=
  Glob.covers (Glob.ofMarked (pattern.length + 1) pattern) s

/-- The text without what matches at its start; with `longest`, as much as possible. -/
def withoutStart (pattern : List Marked) (longest : Bool) (s : List Char) : List Char :=
  let lengths := List.range (s.length + 1)
  let order := if longest then lengths.reverse else lengths
  match order.find? fun n => matchesAll pattern (s.take n) with
  | some n => s.drop n
  | none => s

/-- The text without what matches at its end; with `longest`, as much as possible. -/
def withoutEnd (pattern : List Marked) (longest : Bool) (s : List Char) : List Char :=
  let lengths := List.range (s.length + 1)
  let order := if longest then lengths else lengths.reverse
  match order.find? fun n => matchesAll pattern (s.drop n) with
  | some n => s.take n
  | none => s

end CommandVerbs.Shell
