import Mathlib.Algebra.GroupWithZero.Nat
import Mathlib.Data.List.MinMax
import CommandVerbs.Proofs.Text.Lines
import CommandVerbs.Table

/-! Columns of a table line up. Every cell has a width, of its column; so a cell starts where the widths
of the columns before it and the separators between them end, whatever the cells of its row are, and
removing blanks at the end of a row moves none. -/
namespace CommandVerbs.Table

variable {widths : List Nat} {row : List String} {cell : String} {j width : Nat} {c : Char}

/-! ## Widths -/

/-- The number of characters of each cell of a column, in those rows that have it. -/
def columnLengths (rows : List (List String)) (j : Nat) : List Nat :=
  rows.filterMap fun row => row[j]?.map String.length

/-- The number of characters of the longest cell of a column. -/
def columnWidth (t : Table) (j : Nat) : Nat :=
  (columnLengths (t.headings :: t.rows) j).max?.getD 0

theorem columnLengths_cons (row : List String) (rows : List (List String)) (j : Nat) :
    columnLengths (row :: rows) j =
      (row[j]?.map String.length).toList ++ columnLengths rows j := by
  cases given : row[j]? <;> simp [columnLengths, given]

theorem getElem?_widen (widths : List Nat) (row : List String) (j : Nat) :
    (widen widths row)[j]? = Option.merge max widths[j]? (row[j]?.map String.length) := by
  induction widths, row using widen.induct generalizing j with
  | case1 widths => simp [widen]
  | case2 row _ => simp [widen]
  | case3 width widths cell cells ih => cases j <;> simp [widen, ih]

theorem getElem?_foldl_widen (rows : List (List String)) (widths : List Nat) (j : Nat) :
    (rows.foldl widen widths)[j]? = (widths[j]?.toList ++ columnLengths rows j).max? := by
  induction rows generalizing widths with
  | nil => cases known : widths[j]? <;> simp [columnLengths, known]
  | cons row rows ih =>
    rw [List.foldl_cons, ih, getElem?_widen, columnLengths_cons]
    cases widths[j]? with
    | none => simp
    | some width =>
      cases row[j]? with
      | none => simp
      | some cell =>
        change (max width cell.length :: columnLengths rows j).max? =
          (width :: cell.length :: columnLengths rows j).max?
        rw [List.max?_cons', List.max?_cons', List.foldl_cons]

theorem getElem?_widths (t : Table) (j : Nat) :
    t.widths[j]? = (columnLengths (t.headings :: t.rows) j).max? := by
  rw [Table.widths, columnWidths, getElem?_foldl_widen]
  simp

/-- Each cell of the row has a width, and fits it. -/
def Fits (widths : List Nat) (row : List String) : Prop :=
  ∀ (j : Nat) (cell : String), row[j]? = some cell →
    ∃ width, widths[j]? = some width ∧ cell.length ≤ width

theorem Fits.tail {widths : List Nat} {row : List String} (fits : Fits (width :: widths) (cell :: row)) :
    Fits widths row :=
  fun j cell given => fits (j + 1) cell given

theorem fits_of_mem (t : Table) (member : row ∈ t.headings :: t.rows) : Fits t.widths row := by
  intro j cell given
  have among : cell.length ∈ columnLengths (t.headings :: t.rows) j :=
    List.mem_filterMap.mpr ⟨row, member, by rw [given, Option.map_some]⟩
  rw [getElem?_widths]
  exact ⟨_, (Option.some_get _).symm, List.le_max?_get_of_mem among⟩

theorem fits_rule (t : Table) : Fits t.widths t.rule := by
  intro j cell given
  rw [rule, List.getElem?_map, Option.map_eq_some_iff] at given
  obtain ⟨width, known, rfl⟩ := given
  exact ⟨width, known, by simp⟩

theorem getElem?_widths_of_fits (t : Table) (fits : Fits t.widths row) (given : row[j]? = some cell) :
    t.widths[j]? = some (t.columnWidth j) := by
  obtain ⟨width, known, -⟩ := fits j cell given
  rw [known, columnWidth, ← getElem?_widths, known, Option.getD_some]

theorem take_widths (t : Table) (within : j ≤ t.widths.length) :
    t.widths.take j = (List.range j).map t.columnWidth := by
  apply List.ext_getElem?
  intro i
  rw [List.getElem?_take, List.getElem?_map]
  split
  · rename_i before
    obtain ⟨width, known⟩ : ∃ width, t.widths[i]? = some width :=
      ⟨_, List.getElem?_eq_getElem (before.trans_le within)⟩
    rw [List.getElem?_range before, Option.map_some, columnWidth, ← getElem?_widths, known,
      Option.getD_some]
  · rename_i beyond
    rw [List.getElem?_eq_none (by simpa using beyond), Option.map_none]

/-! ## The place of a cell in its row -/

/-- The row as it is before blanks at its end are removed: every cell but the last is filled up to the
width of its column. -/
def untrimmed (t : Table) (row : List String) : String :=
  String.ofList (List.replicate t.indent ' ') ++ t.separator.intercalate
    (row.mapIdx fun j cell => if j + 1 = row.length then cell else padded (t.columnWidth j) cell)

/-- The number of characters before a column. -/
def offset (t : Table) (j : Nat) : Nat :=
  t.indent + ((List.range j).map fun i => t.columnWidth i + t.separator.length).sum

/-- The cell stands in the line after so many characters, as it is, or without the blanks at its end
where the line ends with it. -/
def StandsAt (line : String) (offset : Nat) (cell : String) : Prop :=
  ∃ before, before.length = offset ∧ (before ++ cell.toList <+: line.toList ∨
    line.toList = before ++ Text.dropBlanksEnd cell.toList)

theorem paddedCells_eq_mapIdx (widths : List Nat) (row : List String) :
    paddedCells widths row = row.mapIdx fun j cell =>
      if j + 1 = row.length then cell else (widths[j]?.elim cell (padded · cell)) := by
  induction widths, row using paddedCells.induct with
  | case1 => rfl
  | case2 => simp [paddedCells]
  | case3 width widths cell cells some ih =>
    have more : cells.length ≠ 0 := by simpa using some
    simp [paddedCells, ih, List.mapIdx_cons, Ne.symm more]
  | case4 cell cells some ih =>
    simp [paddedCells, ih, List.mapIdx_cons]

theorem rowText_eq_untrimmed (t : Table) (fits : Fits t.widths row) :
    t.rowText t.widths row = t.untrimmed row := by
  rw [rowText, untrimmed, paddedCells_eq_mapIdx]
  congr 2
  apply List.ext_getElem?
  intro j
  rw [List.getElem?_mapIdx, List.getElem?_mapIdx]
  cases given : row[j]? with
  | none => rfl
  | some cell => simp [getElem?_widths_of_fits t fits given]

theorem length_padded (within : cell.length ≤ width) : (padded width cell).length = width := by
  simp [padded]
  omega

/-- Between the cells of a row that fits there are only blanks and separators, so what comes before a
cell is as wide as the columns before it with their separators. -/
theorem exists_before_cell (sep : String) (fits : Fits widths row) (given : row[j]? = some cell) :
    ∃ before after,
      (sep.intercalate (paddedCells widths row)).toList = before ++ cell.toList ++ after ∧
      before.length = ((widths.take j).map (· + sep.length)).sum := by
  induction widths, row using paddedCells.induct generalizing j with
  | case1 => simp at given
  | case2 widths only =>
    obtain ⟨rfl, rfl⟩ : j = 0 ∧ cell = only := by
      cases j <;> simp_all
    exact ⟨[], [], by simp [paddedCells], by simp⟩
  | case3 width widths first cells some ih =>
    have next : paddedCells widths cells ≠ [] := by
      rw [paddedCells_eq_mapIdx]
      simpa using some
    rw [paddedCells, String.intercalate_cons_of_ne_nil next]
    · cases j with
      | zero =>
        obtain rfl : first = cell := by simpa using given
        refine ⟨[], List.replicate (width - first.length) ' ' ++ sep.toList ++
          (sep.intercalate (paddedCells widths cells)).toList, ?_, by simp⟩
        simp [padded]
      | succ j =>
        obtain ⟨before, after, whole, wide⟩ := ih fits.tail given
        refine ⟨(padded width first).toList ++ sep.toList ++ before, after, ?_, ?_⟩
        · simp [whole]
        · obtain ⟨_, known, within⟩ := fits 0 first rfl
          obtain rfl : _ = width := (Option.some.inj known).symm
          rw [List.length_append, List.length_append, String.length_toList, String.length_toList,
            length_padded within, wide, List.take_succ_cons, List.map_cons, List.sum_cons]
    · exact some
  | case4 first cells some ih =>
    obtain ⟨_, known, -⟩ := fits 0 first rfl
    simp at known

theorem standsAt_line (t : Table) (fits : Fits t.widths row) (given : row[j]? = some cell)
    (member : c ∈ cell.toList) (solid : Text.isBlank c = false) :
    StandsAt (t.line t.widths row) (t.offset j) cell := by
  obtain ⟨before, after, whole, wide⟩ := exists_before_cell t.separator fits given
  obtain ⟨_, known, -⟩ := fits j cell given
  have within : j ≤ t.widths.length := (List.getElem?_eq_some_iff.mp known).1.le
  refine ⟨List.replicate t.indent ' ' ++ before, ?_, ?_⟩
  · rw [List.length_append, List.length_replicate, wide, take_widths t within, List.map_map, offset]
    rfl
  · have text : (t.rowText t.widths row).toList =
        (List.replicate t.indent ' ' ++ before) ++ cell.toList ++ after := by
      rw [rowText, String.toList_append, String.toList_ofList, whole]
      simp only [List.append_assoc]
    rw [line, Text.trimEnd, String.toList_ofList, text]
    exact Text.dropBlanksEnd_around _ _ member solid

theorem exists_lost (t : Table) (fits : Fits t.widths row) :
    ∃ lost, (t.untrimmed row).toList = (t.line t.widths row).toList ++ lost ∧
      (∀ c ∈ lost, Text.isBlank c) ∧
      ∀ c ∈ (t.line t.widths row).toList.getLast?, Text.isBlank c = false := by
  rw [line, Text.trimEnd, String.toList_ofList, rowText_eq_untrimmed t fits, Text.dropBlanksEnd_eq]
  refine ⟨(t.untrimmed row).toList.rtakeWhile Text.isBlank, ?_, fun _ => List.mem_rtakeWhile_imp, ?_⟩
  · exact List.rdropWhile_append_rtakeWhile.symm
  · intro c last
    obtain ⟨some, rfl⟩ := List.mem_getLast?_eq_getLast last
    simpa using List.rdropWhile_last_not Text.isBlank _ some

/-! ## The lines of the text -/

/-- No cell and no separator goes over the end of a line. -/
def OneLine (t : Table) : Prop :=
  '\n' ∉ t.separator.toList ∧ ∀ row ∈ t.headings :: t.rows, ∀ cell ∈ row, '\n' ∉ cell.toList

/-- The lines of the caption, and an empty one. -/
def captionLines (t : Table) : List String :=
  match t.caption with
  | none => []
  | some caption => Text.splitAt '\n' caption ++ [""]

/-- The rows that are shown: the headings and the rule below them, and the rows. -/
def printed (t : Table) : List (List String) :=
  (if t.headings.isEmpty then [] else [t.headings, t.rule]) ++ t.rows

theorem mem_intercalate {sep : String} {parts : List String} (member : c ∈ (sep.intercalate parts).toList) :
    c ∈ sep.toList ∨ ∃ part ∈ parts, c ∈ part.toList := by
  induction parts with
  | nil => simp at member
  | cons part rest ih =>
    cases rest with
    | nil => exact .inr ⟨part, List.mem_singleton_self part, by simpa using member⟩
    | cons next rest =>
      rw [String.intercalate_cons_cons, String.toList_append, String.toList_append, List.mem_append,
        List.mem_append] at member
      rcases member with (first | between) | later
      · exact .inr ⟨part, List.mem_cons_self, first⟩
      · exact .inl between
      · exact (ih later).imp_right fun ⟨other, among, inside⟩ =>
          ⟨other, List.mem_cons_of_mem _ among, inside⟩

theorem mem_paddedCells {text : String} (member : text ∈ paddedCells widths row)
    (within : c ∈ text.toList) : c = ' ' ∨ ∃ cell ∈ row, c ∈ cell.toList := by
  rw [paddedCells_eq_mapIdx] at member
  obtain ⟨j, before, rfl⟩ := List.mem_mapIdx.mp member
  split at within
  · exact .inr ⟨_, List.getElem_mem before, within⟩
  · cases known : widths[j]? with
    | none => exact .inr ⟨_, List.getElem_mem before, by simpa [known] using within⟩
    | some width =>
      have parts : c ∈ row[j].toList ∨ c = ' ' := by
        simp only [known, Option.elim_some, padded, String.toList_append, String.toList_ofList,
          List.mem_append, List.mem_replicate] at within
        exact within.imp_right And.right
      exact parts.symm.imp_right fun inside => ⟨_, List.getElem_mem before, inside⟩

/-- A line consists of blanks, of separators and of its cells. -/
theorem mem_line (t : Table) (member : c ∈ (t.line widths row).toList) :
    c = ' ' ∨ c ∈ t.separator.toList ∨ ∃ cell ∈ row, c ∈ cell.toList := by
  rw [line, Text.trimEnd, String.toList_ofList, Text.dropBlanksEnd_eq] at member
  have inside := (List.rdropWhile_prefix Text.isBlank _).subset member
  rw [rowText, String.toList_append, String.toList_ofList, List.mem_append, List.mem_replicate] at inside
  rcases inside with ⟨-, blank⟩ | inside
  · exact .inl blank
  rcases mem_intercalate inside with between | ⟨text, among, inside⟩
  · exact .inr (.inl between)
  · exact (mem_paddedCells among inside).imp_right .inr

theorem fits_of_printed (t : Table) (member : row ∈ t.printed) : Fits t.widths row := by
  rw [printed, List.mem_append] at member
  rcases member with heading | shown
  · split at heading
    · contradiction
    · rcases List.mem_pair.mp heading with rfl | rfl
      · exact t.fits_of_mem List.mem_cons_self
      · exact t.fits_rule
  · exact t.fits_of_mem (List.mem_cons_of_mem _ shown)

theorem OneLine.printed {t : Table} (single : t.OneLine) (member : row ∈ t.printed) :
    '\n' ∉ (t.line t.widths row).toList := by
  have cells : ∀ cell ∈ row, '\n' ∉ cell.toList := by
    rw [Table.printed, List.mem_append] at member
    rcases member with heading | shown
    · split at heading
      · contradiction
      · rcases List.mem_pair.mp heading with rfl | rfl
        · exact single.2 _ List.mem_cons_self
        · intro cell among
          obtain ⟨width, -, rfl⟩ := List.mem_map.mp among
          simp
    · exact single.2 _ (List.mem_cons_of_mem _ shown)
  intro member
  rcases t.mem_line member with blank | between | ⟨cell, among, inside⟩
  · exact absurd blank (by decide)
  · exact single.1 between
  · exact cells cell among inside

theorem lines_eq (t : Table) :
    t.lines = (match t.caption with | none => [] | some caption => [caption, ""]) ++
      t.printed.map (t.line t.widths) := by
  rw [lines, printed]
  cases t.headings.isEmpty <;> cases t.caption <;> simp

/-- There is something to show: a caption, headings or a row. -/
def Shows (t : Table) : Prop :=
  t.caption.isSome ∨ t.headings ≠ [] ∨ t.rows ≠ []

theorem Shows.lines_ne_nil {t : Table} (shows : t.Shows) : t.lines ≠ [] := by
  rw [lines_eq, Table.printed]
  intro none
  obtain ⟨caption, printed⟩ := List.append_eq_nil_iff.mp none
  obtain ⟨headings, rows⟩ := List.append_eq_nil_iff.mp (List.map_eq_nil_iff.mp printed)
  rcases shows with given | given | given
  · obtain ⟨text, given⟩ := Option.isSome_iff_exists.mp given
    simp [given] at caption
  · simp [given] at headings
  · exact given rows

/-- The lines of the text are those of the caption, and one for each row that is shown. -/
theorem splitAt_render {t : Table} (single : t.OneLine) (shows : t.Shows) :
    Text.splitAt '\n' t.render = t.captionLines ++ t.printed.map (t.line t.widths) := by
  have rows : (t.printed.map (t.line t.widths)).flatMap (Text.splitAt '\n') =
      t.printed.map (t.line t.widths) := by
    refine (List.flatMap_congr fun text among => ?_).trans (List.flatMap_singleton' _)
    obtain ⟨row, member, rfl⟩ := List.mem_map.mp among
    exact Text.splitAt_of_not_mem (single.printed member)
  have joined : t.render = (String.singleton '\n').intercalate t.lines := rfl
  rw [joined, Text.splitAt_joined shows.lines_ne_nil, lines_eq, List.flatMap_append, rows, captionLines]
  cases t.caption with
  | none => rfl
  | some caption => simp [Text.splitAt_of_not_mem]

/-- Columns line up. The text of a table that shows something is the lines of its caption, an empty one,
the headings, the rule and the rows. Every cell of a row has a width, which is that of the longest cell of its column; the line
of the row is the row with every cell but the last filled up to its width, less blanks at its end; and
in this line every cell that is not blank stands where the widths of the columns before it and the
separators between them end. -/
theorem cells_line_up (t : Table) (single : t.OneLine) :
    t.render = "\n".intercalate t.lines ∧
    (t.Shows →
      Text.splitAt '\n' t.render = t.captionLines ++ t.printed.map (t.line t.widths)) ∧
    ∀ row ∈ t.printed,
      (∀ j < row.length, t.widths[j]? = some (t.columnWidth j)) ∧
      (∃ lost, (t.untrimmed row).toList = (t.line t.widths row).toList ++ lost ∧
        (∀ c ∈ lost, Text.isBlank c) ∧
        ∀ c ∈ (t.line t.widths row).toList.getLast?, Text.isBlank c = false) ∧
      ∀ j cell, row[j]? = some cell → (∃ c ∈ cell.toList, Text.isBlank c = false) →
        StandsAt (t.line t.widths row) (t.offset j) cell := by
  refine ⟨rfl, splitAt_render single, fun row member => ?_⟩
  have fits := t.fits_of_printed member
  refine ⟨fun j within => ?_, t.exists_lost fits, ?_⟩
  · exact getElem?_widths_of_fits t fits (List.getElem?_eq_getElem within)
  · rintro j cell given ⟨c, inside, solid⟩
    exact t.standsAt_line fits given inside solid

/-- Rows of different lengths, with cells that are blank, end in blanks or have wide characters. -/
theorem cells_line_up_ragged :
    let t : Table :=
      { caption := some "Props", headings := ["KEY", "VALUE"], indent := 2, separator := " | "
        rows := [["é漢", "", "x "], [], ["longer", "b \t"]] }
    t.OneLine ∧
      Text.splitAt '\n' t.render = ["Props", "", "  KEY    | VALUE", "  ------ | ----- | --",
        "  é漢     |       | x", "", "  longer | b"] ∧
      StandsAt "  é漢     |       | x" 19 "x " := by
  intro t
  have single : t.OneLine := by
    unfold OneLine
    decide +kernel
  obtain ⟨-, split, rows⟩ := cells_line_up t single
  have shows : t.Shows := .inl rfl
  have shown : t.captionLines ++ t.printed.map (t.line t.widths) = ["Props", "", "  KEY    | VALUE",
      "  ------ | ----- | --", "  é漢     |       | x", "", "  longer | b"] := by
    decide +kernel
  obtain ⟨-, -, stands⟩ := rows ["é漢", "", "x "] (by decide +kernel)
  have last := stands 2 "x " rfl ⟨'x', by decide +kernel, by decide +kernel⟩
  have text : t.line t.widths ["é漢", "", "x "] = "  é漢     |       | x" := by decide +kernel
  have place : t.offset 2 = 19 := by decide +kernel
  rw [text, place] at last
  exact ⟨single, (split shows).trans shown, last⟩

end CommandVerbs.Table
