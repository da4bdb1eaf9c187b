import Barrage.Canvas.Basic

/-!
# Comparing canvases

Which cells are among the changes from one canvas to another: just those that
both have and whose marks differ, each with the mark that it has afterwards.
-/

namespace Barrage.Canvas

/-! ## The size of a drawing -/

theorem size_draw
    (viewport : Viewport)
    (canvas : Canvas)
    (entity : LiveEntity) :
    (draw viewport canvas entity).columns = canvas.columns ∧
      (draw viewport canvas entity).rows = canvas.rows := by
  rw [draw]
  split
  · exact ⟨rfl, rfl⟩
  · exact ⟨rfl, rfl⟩

theorem size_foldl_draw
    (viewport : Viewport)
    (entities : List LiveEntity)
    (canvas : Canvas) :
    (entities.foldl (draw viewport) canvas).columns = canvas.columns ∧
      (entities.foldl (draw viewport) canvas).rows = canvas.rows := by
  induction entities generalizing canvas with
  | nil => exact ⟨rfl, rfl⟩
  | cons entity rest ih =>
      obtain ⟨sameColumns, sameRows⟩ := size_draw viewport canvas entity
      obtain ⟨columns, rows⟩ := ih (draw viewport canvas entity)
      exact ⟨columns.trans sameColumns, rows.trans sameRows⟩

/-- Projectiles are drawn on a canvas of the given size. -/
theorem size_rasterize
    (entities : List LiveEntity)
    (viewport : Viewport)
    (columns rows : UInt16) :
    (rasterize entities viewport columns rows).columns = columns ∧
      (rasterize entities viewport columns rows).rows = rows := by
  rw [rasterize]
  split
  · exact ⟨rfl, rfl⟩
  · exact size_foldl_draw viewport entities (blank columns rows)

theorem rasterize_nil
    (viewport : Viewport)
    (columns rows : UInt16) :
    rasterize [] viewport columns rows = blank columns rows := by
  rw [rasterize]
  split <;> rfl

/-! ## The cells of a canvas -/

theorem isMarked_of_getElem?
    {canvas : Canvas}
    {column row : Nat}
    {cells : List Bool}
    {cell : Bool}
    (rowFound : canvas.cells[row]? = some cells)
    (columnFound : cells[column]? = some cell) :
    canvas.isMarked column row = cell := by
  rw [isMarked, rowFound, Option.bind_some, columnFound, Option.getD_some]

/-- A cell that lies on a canvas. -/
def HasCell
    (canvas : Canvas)
    (column row : Nat) : Prop :=
  column < canvas.columns.toNat ∧ row < canvas.rows.toNat

instance (canvas : Canvas) (column row : Nat) : Decidable (canvas.HasCell column row) :=
  inferInstanceAs (Decidable (_ ∧ _))

/-- The numbers of a cell are words of 16 bits. -/
theorem HasCell.toNat_toUInt16
    {canvas : Canvas}
    {column row : Nat}
    (hasCell : canvas.HasCell column row) :
    column.toUInt16.toNat = column ∧ row.toUInt16.toNat = row :=
  ⟨UInt16.toNat_ofNat_of_lt' (Nat.lt_trans hasCell.1 canvas.columns.toNat_lt),
    UInt16.toNat_ofNat_of_lt' (Nat.lt_trans hasCell.2 canvas.rows.toNat_lt)⟩

theorem exists_getElem?
    {canvas : Canvas}
    {column row : Nat}
    (hasCell : canvas.HasCell column row) :
    ∃ cells, canvas.cells[row]? = some cells ∧
      cells[column]? = some (canvas.isMarked column row) := by
  have rowBound : row < canvas.cells.length := canvas.rowCount ▸ hasCell.2
  have width := canvas.columnCount _ (List.getElem_mem rowBound)
  have columnBound : column < canvas.cells[row].length := width ▸ hasCell.1
  refine ⟨canvas.cells[row], List.getElem?_eq_getElem rowBound, ?_⟩
  rw [isMarked_eq_getElem canvas rowBound columnBound]
  exact List.getElem?_eq_getElem columnBound

/-- The rows of a canvas with their numbers. -/
theorem zipIdx_cells (canvas : Canvas) :
    canvas.cells.zipIdx =
      (List.range canvas.rows.toNat).map fun row =>
        ((List.range canvas.columns.toNat).map fun column => canvas.isMarked column row, row) := by
  apply List.ext_getElem
  · rw [List.length_zipIdx, List.length_map, List.length_range, canvas.rowCount]
  intro row inZip inRange
  have rowBound : row < canvas.cells.length := by rwa [List.length_zipIdx] at inZip
  have sameCells : canvas.cells[row] =
      (List.range canvas.columns.toNat).map fun column => canvas.isMarked column row := by
    apply List.ext_getElem
    · rw [List.length_map, List.length_range]
      exact canvas.columnCount _ (List.getElem_mem rowBound)
    intro column columnBound _
    rw [List.getElem_map, List.getElem_range, isMarked_eq_getElem canvas rowBound columnBound]
  rw [List.getElem_zipIdx, List.getElem_map, List.getElem_range, sameCells, Nat.zero_add]

theorem hasCell_of_getElem?
    {canvas : Canvas}
    {column row : Nat}
    {cells : List Bool}
    {cell : Bool}
    (rowFound : canvas.cells[row]? = some cells)
    (columnFound : cells[column]? = some cell) :
    canvas.HasCell column row := by
  have width := canvas.columnCount cells (List.mem_of_getElem? rowFound)
  obtain ⟨rowBound, -⟩ := List.getElem?_eq_some_iff.mp rowFound
  obtain ⟨columnBound, -⟩ := List.getElem?_eq_some_iff.mp columnFound
  exact ⟨width ▸ columnBound, canvas.rowCount ▸ rowBound⟩

/-! ## Changes -/

theorem mem_rowChanges_iff
    {row : Nat}
    {before after : List Bool}
    {change : CellChange} :
    change ∈ rowChanges row before after ↔
      ∃ (column : Nat) (old new : Bool), before[column]? = some old ∧ after[column]? = some new ∧ old ≠ new ∧
        change = ⟨column.toUInt16, row.toUInt16, new⟩ := by
  rw [rowChanges, List.mem_filterMap]
  constructor
  · rintro ⟨⟨⟨old, new⟩, column⟩, member, isChange⟩
    rw [List.mem_zipIdx_iff_getElem?, List.getElem?_zip_eq_some] at member
    obtain ⟨oldFound, newFound⟩ := member
    dsimp only at oldFound newFound isChange
    by_cases same : old = new
    · rw [if_pos same] at isChange
      cases isChange
    · rw [if_neg same] at isChange
      cases isChange
      exact ⟨column, old, new, oldFound, newFound, same, rfl⟩
  · rintro ⟨column, old, new, oldFound, newFound, differ, rfl⟩
    refine ⟨((old, new), column), ?_, if_neg differ⟩
    rw [List.mem_zipIdx_iff_getElem?, List.getElem?_zip_eq_some]
    exact ⟨oldFound, newFound⟩

/-- The changes are the cells of both canvases that differ, with the marks that they have afterwards. -/
theorem mem_changes_iff_common
    {before after : Canvas}
    {change : CellChange} :
    change ∈ before.changes after ↔
      (before.HasCell change.column.toNat change.row.toNat ∧
        after.HasCell change.column.toNat change.row.toNat) ∧
        before.isMarked change.column.toNat change.row.toNat ≠
            after.isMarked change.column.toNat change.row.toNat ∧
          change.marked = after.isMarked change.column.toNat change.row.toNat := by
  rw [changes, List.mem_flatMap]
  constructor
  · rintro ⟨⟨⟨oldRow, newRow⟩, row⟩, member, isChange⟩
    rw [List.mem_zipIdx_iff_getElem?, List.getElem?_zip_eq_some] at member
    obtain ⟨oldRowFound, newRowFound⟩ := member
    obtain ⟨column, old, new, oldFound, newFound, differ, rfl⟩ := mem_rowChanges_iff.mp isChange
    have hadCell := hasCell_of_getElem? oldRowFound oldFound
    have hasCell := hasCell_of_getElem? newRowFound newFound
    obtain ⟨sameColumn, sameRow⟩ := hasCell.toNat_toUInt16
    rw [sameColumn, sameRow, isMarked_of_getElem? oldRowFound oldFound,
      isMarked_of_getElem? newRowFound newFound]
    exact ⟨⟨hadCell, hasCell⟩, differ, rfl⟩
  · rintro ⟨⟨hadCell, hasCell⟩, differ, marked⟩
    obtain ⟨newRow, newRowFound, newFound⟩ := exists_getElem? hasCell
    obtain ⟨oldRow, oldRowFound, oldFound⟩ := exists_getElem? hadCell
    refine ⟨((oldRow, newRow), change.row.toNat), ?_, ?_⟩
    · rw [List.mem_zipIdx_iff_getElem?, List.getElem?_zip_eq_some]
      exact ⟨oldRowFound, newRowFound⟩
    · refine mem_rowChanges_iff.mpr ⟨change.column.toNat, _, _, oldFound, newFound, differ, ?_⟩
      rw [← marked]
      cases change
      simp

/-- Between canvases of one size every cell that differs is a change. -/
theorem mem_changes_iff
    {before after : Canvas}
    (sameColumns : before.columns = after.columns)
    (sameRows : before.rows = after.rows)
    {change : CellChange} :
    change ∈ before.changes after ↔
      change.column.toNat < after.columns.toNat ∧ change.row.toNat < after.rows.toNat ∧
        before.isMarked change.column.toNat change.row.toNat ≠
            after.isMarked change.column.toNat change.row.toNat ∧
          change.marked = after.isMarked change.column.toNat change.row.toNat := by
  rw [mem_changes_iff_common, HasCell, HasCell, sameColumns, sameRows, and_self, and_assoc]

end Barrage.Canvas
