import Barrage.Playback.Projectile

/-!
# Canvases

A canvas is a grid of character cells, each of them marked or not.  The
projectiles that are seen in a viewport are drawn by marking the cell that
holds each of them.  Two canvases are compared cell by cell, so that only
what has changed needs to be drawn again.

`isMarked` is the view of a canvas: `isMarked_blank` and `isMarked_mark` say
what the operations do to it, and `ext_isMarked` that it determines a canvas
of a given size.
-/

namespace Barrage

/-- A grid of cells, row by row, with a mark in some of them. -/
structure Canvas where
  columns : UInt16
  rows : UInt16
  cells : List (List Bool)
  /-- There is a list of cells for every row. -/
  rowCount : cells.length = rows.toNat
  /-- Every row has a cell for every column. -/
  columnCount : ∀ row ∈ cells, row.length = columns.toNat
deriving DecidableEq, Repr

/-- A cell of a canvas with the mark that it has now. -/
structure CellChange where
  column : UInt16
  row : UInt16
  marked : Bool
deriving DecidableEq, Repr

/--
The cell that holds a coordinate, where `extent` is divided into `cells`
equal parts.  The far end lies in the last cell, and so does everything
beyond it.
-/
def cellOf
    (coordinate extent : Float)
    (cells : UInt16) : Nat :=
  if extent ≤ 0 then 0
  else min (coordinate / extent * Float.ofNat cells.toNat).toUInt64.toNat (cells.toNat - 1)

namespace Canvas

/-- A canvas without marks. -/
def blank (columns rows : UInt16) : Canvas where
  columns := columns
  rows := rows
  cells := List.replicate rows.toNat (List.replicate columns.toNat false)
  rowCount := List.length_replicate
  columnCount row member := by simp [List.eq_of_mem_replicate member]

/-- Whether a cell is marked.  Cells outside of the canvas are not. -/
def isMarked
    (canvas : Canvas)
    (column row : Nat) : Bool :=
  ((canvas.cells[row]?).bind (·[column]?)).getD false

theorem length_of_mem_modify
    {cells : List (List Bool)}
    {columns : Nat}
    (change : List Bool → List Bool)
    (keepsLength : ∀ row, (change row).length = row.length)
    (index : Nat)
    (columnCount : ∀ row ∈ cells, row.length = columns) :
    ∀ row ∈ cells.modify index change, row.length = columns := by
  intro row member
  obtain ⟨place, inside, rfl⟩ := List.mem_iff_getElem.1 member
  rw [List.getElem_modify]
  split
  · rw [keepsLength]
    exact columnCount _ (List.getElem_mem _)
  · exact columnCount _ (List.getElem_mem _)

/-- Mark a cell. -/
def mark
    (canvas : Canvas)
    (column row : Nat) : Canvas where
  columns := canvas.columns
  rows := canvas.rows
  cells := canvas.cells.modify row (·.set column true)
  rowCount := by rw [List.length_modify, canvas.rowCount]
  columnCount :=
    length_of_mem_modify _ (fun _ => List.length_set) row canvas.columnCount

/-- Draw a projectile, if it is seen. -/
def draw
    (viewport : Viewport)
    (canvas : Canvas)
    (entity : LiveEntity) : Canvas :=
  if viewport.contains entity.screen then
    canvas.mark
      (cellOf entity.screen.x viewport.width canvas.columns)
      (cellOf entity.screen.y viewport.height canvas.rows)
  else canvas

/-- Draw projectiles on a canvas of this size. -/
def rasterize
    (entities : List LiveEntity)
    (viewport : Viewport)
    (columns rows : UInt16) : Canvas :=
  if columns = 0 ∨ rows = 0 then blank columns rows
  else entities.foldl (draw viewport) (blank columns rows)

/-! ## Changes -/

/-- The cells of a row whose marks differ, from left to right. -/
def rowChanges
    (row : Nat)
    (before after : List Bool) : List CellChange :=
  (before.zip after).zipIdx.filterMap fun ((old, new), column) =>
    if old = new then none else some ⟨column.toUInt16, row.toUInt16, new⟩

/-- The cells whose marks differ, row by row, as far as both canvases reach. -/
def changes (before after : Canvas) : List CellChange :=
  (before.cells.zip after.cells).zipIdx.flatMap fun ((old, new), row) =>
    rowChanges row old new

/-- The marked cells, row by row. -/
def marked (canvas : Canvas) : List (Nat × Nat) :=
  canvas.cells.zipIdx.flatMap fun (cells, row) =>
    cells.zipIdx.filterMap fun (cell, column) => if cell then some (column, row) else none

/-! ## The marks after each operation -/

@[simp]
theorem isMarked_blank
    (columns rows : UInt16)
    (column row : Nat) :
    (blank columns rows).isMarked column row = false := by
  simp only [isMarked, blank, List.getElem?_replicate]
  split <;> simp [List.getElem?_replicate]
  split <;> rfl

theorem isMarked_eq_false_of_outside
    {canvas : Canvas}
    {column row : Nat}
    (outside : canvas.columns.toNat ≤ column ∨ canvas.rows.toNat ≤ row) :
    canvas.isMarked column row = false := by
  simp only [isMarked]
  cases found : canvas.cells[row]? with
  | none => rfl
  | some cells =>
      obtain ⟨inside, rfl⟩ := List.getElem?_eq_some_iff.1 found
      rcases outside with beyond | beyond
      · have width := canvas.columnCount _ (List.getElem_mem inside)
        simp [List.getElem?_eq_none (width ▸ beyond)]
      · exact absurd inside (by rw [canvas.rowCount]; omega)

/-- Where one cell is set anew, it has its new mark, and all others have those that they had. -/
theorem isMarked_of_cells_eq
    {canvas result : Canvas}
    {column row : Nat}
    {marked : Bool}
    (cells : result.cells = canvas.cells.modify row (·.set column marked))
    (columnInside : column < canvas.columns.toNat)
    (rowInside : row < canvas.rows.toNat)
    (otherColumn otherRow : Nat) :
    result.isMarked otherColumn otherRow =
      if otherColumn = column ∧ otherRow = row then marked
      else canvas.isMarked otherColumn otherRow := by
  simp only [isMarked, cells, List.getElem?_modify]
  by_cases sameRow : row = otherRow
  · subst sameRow
    have inside : row < canvas.cells.length := canvas.rowCount ▸ rowInside
    have width := canvas.columnCount _ (List.getElem_mem inside)
    simp only [List.getElem?_eq_getElem inside, if_true, Option.map_eq_map, Option.map_some,
      Option.bind_some, List.getElem?_set, width, columnInside, and_true]
    by_cases sameColumn : column = otherColumn
    · simp [sameColumn]
    · simp [sameColumn, Ne.symm sameColumn]
  · simp [sameRow, Ne.symm sameRow]

/-- Marking a cell of the canvas marks it and changes no other cell. -/
theorem isMarked_mark
    (canvas : Canvas)
    {column row : Nat}
    (columnInside : column < canvas.columns.toNat)
    (rowInside : row < canvas.rows.toNat)
    (otherColumn otherRow : Nat) :
    (canvas.mark column row).isMarked otherColumn otherRow =
      if otherColumn = column ∧ otherRow = row then true
      else canvas.isMarked otherColumn otherRow :=
  isMarked_of_cells_eq rfl columnInside rowInside otherColumn otherRow

theorem isMarked_eq_getElem
    (canvas : Canvas)
    {column row : Nat}
    (rowInside : row < canvas.cells.length)
    (columnInside : column < (canvas.cells[row]).length) :
    canvas.isMarked column row = (canvas.cells[row])[column] := by
  simp [isMarked, List.getElem?_eq_getElem rowInside, List.getElem?_eq_getElem columnInside]

/-- Canvases of one size with the same marks are the same canvas. -/
theorem ext_isMarked
    {left right : Canvas}
    (columns : left.columns = right.columns)
    (rows : left.rows = right.rows)
    (marks : ∀ column row, left.isMarked column row = right.isMarked column row) :
    left = right := by
  have cells : left.cells = right.cells := by
    refine List.ext_getElem (by rw [left.rowCount, right.rowCount, rows]) ?_
    intro row leftRow rightRow
    have leftWidth := left.columnCount _ (List.getElem_mem leftRow)
    have rightWidth := right.columnCount _ (List.getElem_mem rightRow)
    refine List.ext_getElem (by rw [leftWidth, rightWidth, columns]) ?_
    intro column leftColumn rightColumn
    rw [← isMarked_eq_getElem left leftRow leftColumn,
      ← isMarked_eq_getElem right rightRow rightColumn, marks]
  cases left
  cases right
  simp_all

end Canvas

end Barrage
