import Mathlib.Algebra.GroupWithZero.Nat
import Mathlib.Data.List.Forall2
import ModelHub.Proofs.LinesAndWords
import ModelHub.Table

/-!
# The layout of tables

A table is written line by line, one line for each row that is printed. On every line a column
starts at the same character, because each column before it is as wide as its widest cell and two
spaces follow it. A cell on the left side of the last column ends its line. Where all cells are
words, they are found again by splitting the lines at white space.
-/

namespace ModelHub.Table

/-! ## Widths -/

/-- The width of a column is the largest number of characters among its printed cells, of which the
title is one if the header is shown. It is zero if nothing is printed. -/
structure IsWidth (table : Table) (index width : Nat) : Prop where
  covers : ∀ row ∈ table.printedRows, ∀ cell, row[index]? = some cell → cell.length ≤ width
  reached : width = 0 ∨
    ∃ row ∈ table.printedRows, ∃ cell, row[index]? = some cell ∧ cell.length = width

/-- How many characters stand before a column: the columns before it, and two spaces after each. -/
def startOf (widths : List Nat) (index : Nat) : Nat :=
  (widths.take index).sum + 2 * index

theorem startOf_zero (widths : List Nat) : startOf widths 0 = 0 := by
  simp [startOf]

theorem startOf_cons_succ (width : Nat) (widths : List Nat) (index : Nat) :
    startOf (width :: widths) (index + 1) = width + 2 + startOf widths index := by
  unfold startOf
  rw [List.take_succ_cons, List.sum_cons]
  omega

theorem cellAt_eq (row : List String) (index : Nat) : cellAt row index = row[index]?.getD "" :=
  List.getD_eq_getElem?_getD

theorem columnWidth_eq (rows : List (List String)) (index : Nat) :
    columnWidth rows index = (rows.map fun row => (cellAt row index).length).max?.getD 0 := by
  unfold columnWidth
  rw [List.foldl_max, Nat.zero_max]

theorem isWidth_columnWidth (table : Table) (index : Nat) :
    IsWidth table index (columnWidth table.printedRows index) := by
  rw [columnWidth_eq]
  constructor
  · intro row rowMem cell isCell
    have isCount : cell.length ∈ table.printedRows.map fun row => (cellAt row index).length :=
      List.mem_map.2 ⟨row, rowMem, by rw [cellAt_eq, isCell, Option.getD_some]⟩
    exact List.le_max?_getD_of_mem isCount
  · cases largest : (table.printedRows.map fun row => (cellAt row index).length).max? with
    | none =>
        exact Or.inl rfl
    | some width =>
        obtain ⟨row, rowMem, isCount⟩ := List.mem_map.1 (List.max?_mem largest)
        rw [cellAt_eq] at isCount
        cases isCell : row[index]? with
        | none =>
            -- a missing cell counts as an empty one, so the width is zero
            rw [isCell] at isCount
            exact Or.inl isCount.symm
        | some cell =>
            rw [isCell] at isCount
            exact Or.inr ⟨row, rowMem, cell, isCell, isCount⟩

theorem length_widths (table : Table) : table.widths.length = table.columns.length := by
  simp [widths]

theorem getElem?_widths (table : Table) {index : Nat} (below : index < table.columns.length) :
    table.widths[index]? = some (columnWidth table.printedRows index) := by
  unfold widths
  rw [List.getElem?_map, List.getElem?_range below, Option.map_some]

theorem length_of_mem_printedRows {table : Table}
    (matching : ∀ row ∈ table.rows, row.length = table.columns.length) :
    ∀ row ∈ table.printedRows, row.length = table.columns.length := by
  unfold printedRows
  split
  · exact List.forall_mem_cons.2 ⟨by simp [header], matching⟩
  · exact matching

/-- No printed cell is wider than its column. -/
theorem forall₂_length_le_widths {table : Table}
    (matching : ∀ row ∈ table.rows, row.length = table.columns.length) {row : List String}
    (rowMem : row ∈ table.printedRows) :
    List.Forall₂ (fun cell width => cell.length ≤ width) row table.widths := by
  have sameLength : row.length = table.columns.length :=
    length_of_mem_printedRows matching row rowMem
  refine List.forall₂_of_length_eq_of_get (sameLength.trans table.length_widths.symm) ?_
  intro index belowRow belowWidths
  have isWidth : table.widths.get ⟨index, belowWidths⟩ = columnWidth table.printedRows index := by
    have found := table.getElem?_widths (sameLength ▸ belowRow)
    rw [List.getElem?_eq_getElem belowWidths] at found
    exact Option.some.inj found
  rw [isWidth]
  exact (table.isWidth_columnWidth index).covers row rowMem _ (List.getElem?_eq_getElem belowRow)

/-! ## Lines -/

/-- What is written for a cell: the whole cell on the side of its column, and spaces up to the width
on the other side. On the left side of the last column no spaces are written. -/
inductive Fills (width : Nat) (cell : String) : Align → Bool → List Char → Prop
  | right {gap : Nat} (last : Bool) : gap + cell.length = width →
      Fills width cell .right last (List.replicate gap ' ' ++ cell.toList)
  | left {gap : Nat} : gap + cell.length = width →
      Fills width cell .left false (cell.toList ++ List.replicate gap ' ')
  | bare : cell.length ≤ width → Fills width cell .left true cell.toList

variable {columns : List Column} {widths : List Nat} {row : List String} {line field : List Char}
  {width : Nat} {cell : String} {align : Align} {last : Bool}

theorem fills_pad (fits : cell.length ≤ width) :
    Fills width cell align last (pad align width last cell).toList := by
  have filled : width - cell.length + cell.length = width := Nat.sub_add_cancel fits
  cases align with
  | right =>
      have written : (pad .right width last cell).toList =
          List.replicate (width - cell.length) ' ' ++ cell.toList := by
        simp [pad, filler]
      rw [written]
      exact .right last filled
  | left =>
      cases last with
      | true =>
          exact .bare fits
      | false =>
          have written : (pad .left width false cell).toList =
              cell.toList ++ List.replicate (width - cell.length) ' ' := by
            simp [pad, filler]
          rw [written]
          exact .left filled

/-- What is written before the last column is as wide as its own column. -/
theorem Fills.length_eq (fills : Fills width cell align false field) : field.length = width := by
  cases fills with
  | right _ filled =>
      rw [List.length_append, List.length_replicate, String.length_toList, filled]
  | left filled =>
      rw [List.length_append, List.length_replicate, String.length_toList, Nat.add_comm, filled]

theorem Fills.mem (fills : Fills width cell align last field) {character : Char}
    (member : character ∈ field) : character = ' ' ∨ character ∈ cell.toList := by
  cases fills with
  | right _ _ =>
      exact (List.mem_append.1 member).imp_left List.eq_of_mem_replicate
  | left _ =>
      exact (List.mem_append.1 member).symm.imp_left List.eq_of_mem_replicate
  | bare _ =>
      exact Or.inr member

theorem Fills.splitWords_eq (fills : Fills width cell align last field)
    (isWord : Text.IsWord cell.toList) : Text.splitWords field = [cell.toList] := by
  cases fills with
  | right _ _ =>
      rw [Text.splitWords_spaces_append, isWord.splitWords_eq]
  | left _ =>
      exact isWord.splitWords_append_spaces _
  | bare _ =>
      exact isWord.splitWords_eq

/-- A line for a row: what fills the columns one after the other, with two spaces in between. The
facts about lines are proved by induction on this relation. -/
inductive IsLine : List Column → List Nat → List String → List Char → Prop
  | none : IsLine [] [] [] []
  | last {column : Column} {width : Nat} {cell : String} {field : List Char} :
      Fills width cell column.align true field → IsLine [column] [width] [cell] field
  | next {column second : Column} {columns : List Column} {width : Nat} {widths : List Nat}
      {cell : String} {cells : List String} {field rest : List Char} :
      Fills width cell column.align false field →
      IsLine (second :: columns) widths cells rest →
      IsLine (column :: second :: columns) (width :: widths) (cell :: cells)
        (field ++ ' ' :: ' ' :: rest)

/-- Cells that are no wider than their columns are joined to a line for them. -/
theorem isLine_joinCells (sameLength : columns.length = widths.length)
    (fits : List.Forall₂ (fun cell width => cell.length ≤ width) row widths) :
    IsLine columns widths row (joinCells columns widths row).toList := by
  induction columns generalizing widths row with
  | nil =>
      obtain rfl := List.length_eq_zero_iff.1 sameLength.symm
      cases fits
      exact .none
  | cons column others inductionHypothesis =>
      cases fits with
      | nil =>
          cases sameLength
      | @cons cell width cells widths cellFits othersFit =>
          have othersLength : others.length = widths.length := Nat.succ.inj sameLength
          cases others with
          | nil =>
              obtain rfl := List.length_eq_zero_iff.1 othersLength.symm
              cases othersFit
              exact .last (fills_pad cellFits)
          | cons second columns =>
              have written : (joinCells (column :: second :: columns) (width :: widths)
                    (cell :: cells)).toList =
                  (pad column.align width false cell).toList ++
                    ' ' :: ' ' :: (joinCells (second :: columns) widths cells).toList := by
                simp [joinCells]
              rw [written]
              exact .next (fills_pad cellFits) (inductionHypothesis othersLength othersFit)

/-- What fills a column for a cell begins at a certain character of the line. Nothing stands behind
the last column, and two spaces behind any other. -/
def StandsAt (start width : Nat) (align : Align) (last : Bool) (cell : String)
    (line : List Char) : Prop :=
  ∃ before field after, line = before ++ field ++ after ∧ before.length = start ∧
    Fills width cell align last field ∧ (last = true → after = []) ∧
      (last = false → [' ', ' '] <+: after)

/-- A line shows a row when every cell stands where its column starts. -/
structure Shows (columns : List Column) (widths : List Nat) (row : List String)
    (line : List Char) : Prop where
  eq_nil : columns = [] → line = []
  standsAt : ∀ index column width cell, columns[index]? = some column →
    widths[index]? = some width → row[index]? = some cell →
      StandsAt (startOf widths index) width column.align (index + 1 = columns.length) cell line

theorem StandsAt.append {start : Nat} (stands : StandsAt start width align last cell line)
    (before : List Char) :
    StandsAt (before.length + start) width align last cell (before ++ line) := by
  obtain ⟨inner, field, after, rfl, rfl, fills, atEnd⟩ := stands
  refine ⟨before ++ inner, field, after, ?_, List.length_append, fills, atEnd⟩
  simp only [List.append_assoc]

theorem IsLine.shows (isLine : IsLine columns widths row line) : Shows columns widths row line := by
  induction isLine with
  | none =>
      exact ⟨fun _ => rfl, nofun⟩
  | @last onlyColumn onlyWidth onlyCell field fills =>
      refine ⟨nofun, fun index column width cell isColumn isWidth isCell => ?_⟩
      cases index with
      | zero =>
          obtain rfl := Option.some.inj isColumn
          obtain rfl := Option.some.inj isWidth
          obtain rfl := Option.some.inj isCell
          exact ⟨[], field, [], by simp, (startOf_zero _).symm, fills, fun _ => rfl, nofun⟩
      | succ index =>
          cases isColumn
  | @next firstColumn second columns firstWidth widths firstCell cells field rest fills _ shows =>
      refine ⟨nofun, fun index column width cell isColumn isWidth isCell => ?_⟩
      cases index with
      | zero =>
          obtain rfl := Option.some.inj isColumn
          obtain rfl := Option.some.inj isWidth
          obtain rfl := Option.some.inj isCell
          have notLast : decide (0 + 1 = (firstColumn :: second :: columns).length) = false := by
            simp
          rw [notLast]
          exact ⟨[], field, ' ' :: ' ' :: rest, rfl, (startOf_zero _).symm, fills, nofun,
            fun _ => List.prefix_append [' ', ' '] rest⟩
      | succ index =>
          -- the first field and two spaces push every other column to the right, so the starts in
          -- the rest of the line are counted on from there
          have stands := (shows.standsAt index column width cell isColumn isWidth isCell).append
            (field ++ [' ', ' '])
          rw [List.length_append, fills.length_eq] at stands
          rw [startOf_cons_succ]
          simpa using stands

/-- A line has no characters but spaces and those of the cells. -/
theorem IsLine.mem (isLine : IsLine columns widths row line) {character : Char}
    (member : character ∈ line) : character = ' ' ∨ ∃ cell ∈ row, character ∈ cell.toList := by
  induction isLine with
  | none =>
      cases member
  | @last _ _ cell _ fills =>
      exact (fills.mem member).imp_right fun inCell => ⟨cell, List.mem_singleton.2 rfl, inCell⟩
  | @next _ _ _ _ _ cell cells _ _ fills _ inRest =>
      rcases List.mem_append.1 member with inField | behind
      · exact (fills.mem inField).imp_right fun inCell => ⟨cell, List.mem_cons_self, inCell⟩
      · simp only [List.mem_cons] at behind
        rcases behind with isSpace | isSpace | behind
        · exact Or.inl isSpace
        · exact Or.inl isSpace
        · refine (inRest behind).imp_right fun ⟨other, otherMem, inCell⟩ => ?_
          exact ⟨other, List.mem_cons_of_mem cell otherMem, inCell⟩

theorem IsLine.splitWords_eq (isLine : IsLine columns widths row line)
    (areWords : ∀ cell ∈ row, Text.IsWord cell.toList) :
    Text.splitWords line = row.map String.toList := by
  induction isLine with
  | none =>
      exact Text.splitWords_nil
  | last fills =>
      exact fills.splitWords_eq (areWords _ List.mem_cons_self)
  | next fills _ inductionHypothesis =>
      obtain ⟨isWord, othersAreWords⟩ := List.forall_mem_cons.1 areWords
      rw [Text.splitWords_append_cons Text.isBlank_space, Text.splitWords_cons Text.isBlank_space,
        fills.splitWords_eq isWord, inductionHypothesis othersAreWords, List.map_cons,
        List.singleton_append]

/-! ## Tables -/

theorem toList_render (table : Table) :
    table.render.toList =
      (table.printedRows.map fun row => (joinCells table.columns table.widths row).toList).flatMap
        fun line => line ++ ['\n'] := by
  simp [render, renderRow, String.toList_join, List.flatMap_map]

/-- The lines show the printed rows in order, in columns that are as wide as their widest cell. The
text consists of the lines with a line feed behind each, and is split into them unless a cell has a
line feed of its own. If all cells are words, the words of the lines are the cells. -/
structure IsLaidOut (table : Table) (lines : List (List Char)) (text : List Char) : Prop where
  isWidth : ∀ index < table.columns.length,
    ∃ width, table.widths[index]? = some width ∧ IsWidth table index width
  shows : List.Forall₂ (Shows table.columns table.widths) table.printedRows lines
  text_eq : text = lines.flatMap fun line => line ++ ['\n']
  splitLines_eq : (∀ row ∈ table.printedRows, ∀ cell ∈ row, '\n' ∉ cell.toList) →
    Text.splitLines text = lines
  splitWords_eq : (∀ row ∈ table.printedRows, ∀ cell ∈ row, Text.IsWord cell.toList) →
    (Text.splitLines text).map Text.splitWords =
      table.printedRows.map fun row => row.map String.toList

section

variable {table : Table} (matching : ∀ row ∈ table.rows, row.length = table.columns.length)

include matching

theorem isLine_of_mem_printedRows {row : List String} (rowMem : row ∈ table.printedRows) :
    IsLine table.columns table.widths row (joinCells table.columns table.widths row).toList :=
  isLine_joinCells table.length_widths.symm (forall₂_length_le_widths matching rowMem)

theorem splitLines_render
    (unbroken : ∀ row ∈ table.printedRows, ∀ cell ∈ row, '\n' ∉ cell.toList) :
    Text.splitLines table.render.toList =
      table.printedRows.map fun row => (joinCells table.columns table.widths row).toList := by
  rw [toList_render]
  refine Text.splitLines_endedLines (List.forall_mem_map.2 fun row rowMem member => ?_)
  rcases (isLine_of_mem_printedRows matching rowMem).mem member with isSpace | inCell
  · revert isSpace
    decide
  · obtain ⟨cell, cellMem, inCell⟩ := inCell
    exact unbroken row rowMem cell cellMem inCell

theorem splitWords_render
    (areWords : ∀ row ∈ table.printedRows, ∀ cell ∈ row, Text.IsWord cell.toList) :
    (Text.splitLines table.render.toList).map Text.splitWords =
      table.printedRows.map fun row => row.map String.toList := by
  have unbroken : ∀ row ∈ table.printedRows, ∀ cell ∈ row, '\n' ∉ cell.toList :=
    fun row rowMem cell cellMem => (areWords row rowMem cell cellMem).lineFeed_not_mem
  rw [splitLines_render matching unbroken, List.map_map]
  refine List.map_congr_left fun row rowMem => ?_
  exact (isLine_of_mem_printedRows matching rowMem).splitWords_eq (areWords row rowMem)

/-- The lines of a table are its printed rows with their cells joined. -/
theorem isLaidOut_joinCells :
    IsLaidOut table
      (table.printedRows.map fun row => (joinCells table.columns table.widths row).toList)
      table.render.toList := by
  refine ⟨?_, ?_, toList_render table, splitLines_render matching, splitWords_render matching⟩
  · exact fun index below => ⟨_, table.getElem?_widths below, table.isWidth_columnWidth index⟩
  · rw [List.forall₂_map_right_iff, List.forall₂_same]
    exact fun row rowMem => (isLine_of_mem_printedRows matching rowMem).shows

end

/-- A table whose rows have a cell for every column is laid out in columns, each of which starts at
the same character of every line. -/
theorem render_isLaidOut (table : Table)
    (matching : ∀ row ∈ table.rows, row.length = table.columns.length) :
    ∃ lines, IsLaidOut table lines table.render.toList :=
  ⟨_, isLaidOut_joinCells matching⟩

/-- Two rows under a header. The first column is as wide as its title and the second one as a cell,
in which `é` and `中` count as one character each. -/
def pairOfRows : Table :=
  { columns := [⟨"ORDINAL", .right⟩, ⟨"MODEL", .left⟩, ⟨"VERSION", .left⟩]
    rows := [["0", "falcon-é中", "2.0.0"], ["12", "m2", "1.0.2"]]
    showHeader := true }

theorem render_isLaidOut_pairOfRows :
    (∀ row ∈ pairOfRows.rows, row.length = pairOfRows.columns.length) ∧
      (∃ lines, IsLaidOut pairOfRows lines pairOfRows.render.toList) ∧
      pairOfRows.render =
        "ORDINAL  MODEL      VERSION\n      0  falcon-é中  2.0.0\n     12  m2         1.0.2\n" ∧
      (Text.splitLines pairOfRows.render.toList).map Text.splitWords =
        pairOfRows.printedRows.map fun row => row.map String.toList := by
  have matching : ∀ row ∈ pairOfRows.rows, row.length = pairOfRows.columns.length := by decide
  have areWords : ∀ row ∈ pairOfRows.printedRows, ∀ cell ∈ row, Text.IsWord cell.toList := by
    decide +kernel
  obtain ⟨lines, laidOut⟩ := render_isLaidOut pairOfRows matching
  exact ⟨matching, ⟨lines, laidOut⟩, by decide +kernel, laidOut.splitWords_eq areWords⟩

end ModelHub.Table
