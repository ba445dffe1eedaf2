import CommandVerbs.Text.Blank

/-!
# Text tables

Rows of cells under an optional caption and optional headings. A column is as wide as its widest
cell; every cell but the last of its row is padded to the width of its column, and nothing blank
stays at the end of a row. Widths count code points.
-/

namespace CommandVerbs

structure Table where
  caption : Option String := none
  headings : List String := []
  indent : Nat := 0
  separator : String := " "
  rows : List (List String) := []
  deriving Repr, Inhabited

namespace Table

/-- The widths of the columns of one row joined to those of the rows before it. -/
def widen : List Nat → List String → List Nat
  | widths, [] => widths
  | [], row => row.map String.length
  | width :: widths, cell :: cells => Nat.max width cell.length :: widen widths cells

/-- The width of each column of some rows. -/
def columnWidths (rows : List (List String)) : List Nat :=
  rows.foldl widen []

/-- The text followed by spaces up to a width. -/
def padded (width : Nat) (s : String) : String :=
  s ++ String.ofList (List.replicate (width - s.length) ' ')

/-- The cells of a row with all but the last one padded. -/
def paddedCells : List Nat → List String → List String
  | _, [] => []
  | _, [cell] => [cell]
  | width :: widths, cell :: cells => padded width cell :: paddedCells widths cells
  | [], cell :: cells => cell :: paddedCells [] cells

/-- The text of a row before its blank end is removed. -/
def rowText (t : Table) (widths : List Nat) (row : List String) : String :=
  String.ofList (List.replicate t.indent ' ') ++ t.separator.intercalate (paddedCells widths row)

def line (t : Table) (widths : List Nat) (row : List String) : String :=
  Text.trimEnd (t.rowText widths row)

/-- The widths of all columns, of the headings and of every row. -/
def widths (t : Table) : List Nat :=
  columnWidths (t.headings :: t.rows)

/-- A row of dashes as wide as the columns. -/
def rule (t : Table) : List String :=
  t.widths.map fun width => String.ofList (List.replicate width '-')

/-- The lines of the table: the caption and an empty line, the headings and a rule, the rows. -/
def lines (t : Table) : List String :=
  let widths := t.widths
  let caption := match t.caption with
    | none => []
    | some caption => [caption, ""]
  let headings := if t.headings.isEmpty then [] else [t.line widths t.headings, t.line widths t.rule]
  caption ++ headings ++ t.rows.map (t.line widths)

/-- The text of the table, without a line feed at its end. -/
def render (t : Table) : String :=
  "\n".intercalate t.lines

end Table

end CommandVerbs
