import Barrage.Proofs.Canvas
import Mathlib.Data.List.Basic

/-!
# Marked cells

A cell is marked if some projectile is seen in it, and for no other reason.  So
a canvas shows the set of the points at which projectiles are seen: neither
their order nor repetitions leave a trace, and the drawing of two groups is the
union of their drawings.

Every coordinate has a cell within the canvas, whatever number it is and
however large the viewport, as long as the canvas has cells at all.  A drawing
that fails at a missing cell, `rasterize?`, therefore never fails.
-/

namespace Barrage

/-- A projectile that is seen in a cell of a canvas of this size. -/
def LiveEntity.IsSeenIn
    (entity : LiveEntity)
    (viewport : Viewport)
    (columns rows : UInt16)
    (column row : Nat) : Prop :=
  viewport.contains entity.screen = true ∧
    cellOf entity.screen.x viewport.width columns = column ∧
      cellOf entity.screen.y viewport.height rows = row

/-- Every number has its cell among those that there are. -/
theorem cellOf_lt
    (coordinate extent : Float)
    {cells : UInt16}
    (someCell : cells ≠ 0) :
    cellOf coordinate extent cells < cells.toNat := by
  have positive : 0 < cells.toNat := by
    apply Nat.pos_of_ne_zero
    intro zero
    exact someCell (UInt16.toNat_inj.mp zero)
  rw [cellOf]
  split
  · exact positive
  · exact Nat.lt_of_le_of_lt (Nat.min_le_right _ _) (Nat.sub_one_lt (Nat.ne_of_gt positive))

namespace Canvas

section Drawing

variable
    {viewport : Viewport}
    {canvas : Canvas}
    (someColumn : canvas.columns ≠ 0)
    (someRow : canvas.rows ≠ 0)

include someColumn someRow

theorem hasCell_cellOf
    (coordinate otherCoordinate extent otherExtent : Float) :
    canvas.HasCell
      (cellOf coordinate extent canvas.columns)
      (cellOf otherCoordinate otherExtent canvas.rows) :=
  ⟨cellOf_lt coordinate extent someColumn, cellOf_lt otherCoordinate otherExtent someRow⟩

/-- Drawing a projectile marks the cell in which it is seen. -/
theorem isMarked_draw_iff
    {entity : LiveEntity}
    {column row : Nat} :
    (draw viewport canvas entity).isMarked column row = true ↔
      entity.IsSeenIn viewport canvas.columns canvas.rows column row ∨
        canvas.isMarked column row = true := by
  rw [draw, LiveEntity.IsSeenIn]
  split
  next seen =>
    have inside :=
      hasCell_cellOf someColumn someRow entity.screen.x entity.screen.y viewport.width
        viewport.height
    rw [isMarked_mark canvas inside.1 inside.2]
    simp only [seen, true_and, eq_comm (b := column), eq_comm (b := row)]
    split
    next here => simp [here]
    next elsewhere => simp [elsewhere]
  next unseen => simp [unseen]

theorem isMarked_foldl_draw_iff
    {entities : List LiveEntity}
    {column row : Nat} :
    (entities.foldl (draw viewport) canvas).isMarked column row = true ↔
      (∃ entity ∈ entities,
        entity.IsSeenIn viewport canvas.columns canvas.rows column row) ∨
        canvas.isMarked column row = true := by
  induction entities generalizing canvas with
  | nil => simp
  | cons entity rest ih =>
      obtain ⟨sameColumns, sameRows⟩ := size_draw viewport canvas entity
      rw [List.foldl_cons, ih (sameColumns ▸ someColumn) (sameRows ▸ someRow), sameColumns,
        sameRows, isMarked_draw_iff someColumn someRow, List.exists_mem_cons_iff,
        or_left_comm, ← or_assoc]

end Drawing

theorem isMarked_rasterize_iff
    {entities : List LiveEntity}
    {viewport : Viewport}
    {columns rows : UInt16}
    {column row : Nat} :
    (rasterize entities viewport columns rows).isMarked column row = true ↔
      columns ≠ 0 ∧ rows ≠ 0 ∧
        ∃ entity ∈ entities, entity.IsSeenIn viewport columns rows column row := by
  rw [rasterize]
  split
  next noCells =>
    rw [isMarked_blank]
    tauto
  next cells =>
    obtain ⟨someColumn, someRow⟩ := not_or.mp cells
    rw [isMarked_foldl_draw_iff someColumn someRow, isMarked_blank]
    simp only [Bool.false_eq_true, or_false, someColumn, someRow, ne_eq, not_false_eq_true,
      true_and]
    rfl

/-! ## Drawing without missing a cell -/

/-- Mark a cell, unless the canvas lacks it. -/
def mark?
    (canvas : Canvas)
    (column row : Nat) : Option Canvas :=
  if canvas.HasCell column row then some (canvas.mark column row) else none

/-- Draw a projectile, if it is seen, unless the canvas lacks its cell. -/
def draw?
    (viewport : Viewport)
    (canvas : Canvas)
    (entity : LiveEntity) : Option Canvas :=
  if viewport.contains entity.screen then
    canvas.mark?
      (cellOf entity.screen.x viewport.width canvas.columns)
      (cellOf entity.screen.y viewport.height canvas.rows)
  else some canvas

/-- Draw projectiles on a canvas of this size, unless it lacks the cell of one of them. -/
def rasterize?
    (entities : List LiveEntity)
    (viewport : Viewport)
    (columns rows : UInt16) : Option Canvas :=
  if columns = 0 ∨ rows = 0 then some (blank columns rows)
  else entities.foldlM (draw? viewport) (blank columns rows)

theorem draw?_eq_some
    {canvas : Canvas}
    (viewport : Viewport)
    (someColumn : canvas.columns ≠ 0)
    (someRow : canvas.rows ≠ 0)
    (entity : LiveEntity) :
    draw? viewport canvas entity = some (draw viewport canvas entity) := by
  rw [draw?, draw]
  split
  · exact if_pos (hasCell_cellOf someColumn someRow _ _ _ _)
  · rfl

theorem foldlM_draw?_eq_some
    {canvas : Canvas}
    (viewport : Viewport)
    (someColumn : canvas.columns ≠ 0)
    (someRow : canvas.rows ≠ 0)
    (entities : List LiveEntity) :
    entities.foldlM (draw? viewport) canvas = some (entities.foldl (draw viewport) canvas) := by
  induction entities generalizing canvas with
  | nil => rfl
  | cons entity rest ih =>
      obtain ⟨sameColumns, sameRows⟩ := size_draw viewport canvas entity
      rw [List.foldlM_cons, draw?_eq_some viewport someColumn someRow, List.foldl_cons]
      exact ih (sameColumns ▸ someColumn) (sameRows ▸ someRow)

theorem rasterize?_eq_some
    (entities : List LiveEntity)
    (viewport : Viewport)
    (columns rows : UInt16) :
    rasterize? entities viewport columns rows =
      some (rasterize entities viewport columns rows) := by
  rw [rasterize?, rasterize]
  split
  next => rfl
  next cells =>
    obtain ⟨someColumn, someRow⟩ := not_or.mp cells
    exact foldlM_draw?_eq_some viewport someColumn someRow entities

/-! ## Sets of points -/

theorem exists_isSeenIn_iff
    {entities : List LiveEntity}
    {viewport : Viewport}
    {columns rows : UInt16}
    {column row : Nat} :
    (∃ entity ∈ entities, entity.IsSeenIn viewport columns rows column row) ↔
      ∃ point ∈ entities.map (·.screen), viewport.contains point = true ∧
        cellOf point.x viewport.width columns = column ∧
          cellOf point.y viewport.height rows = row := by
  simp [LiveEntity.IsSeenIn]

/-- Projectiles that are seen at the same points have the same drawing. -/
theorem rasterize_congr
    {entities others : List LiveEntity}
    (samePoints : ∀ point, point ∈ entities.map (·.screen) ↔ point ∈ others.map (·.screen))
    (viewport : Viewport)
    (columns rows : UInt16) :
    rasterize entities viewport columns rows = rasterize others viewport columns rows := by
  obtain ⟨width, height⟩ := size_rasterize entities viewport columns rows
  obtain ⟨otherWidth, otherHeight⟩ := size_rasterize others viewport columns rows
  apply ext_isMarked (width.trans otherWidth.symm) (height.trans otherHeight.symm)
  intro column row
  rw [Bool.eq_iff_iff, isMarked_rasterize_iff, isMarked_rasterize_iff, exists_isSeenIn_iff,
    exists_isSeenIn_iff]
  simp only [samePoints]

theorem isMarked_rasterize_append
    (entities others : List LiveEntity)
    (viewport : Viewport)
    (columns rows : UInt16)
    (column row : Nat) :
    (rasterize (entities ++ others) viewport columns rows).isMarked column row =
      ((rasterize entities viewport columns rows).isMarked column row ||
        (rasterize others viewport columns rows).isMarked column row) := by
  rw [Bool.eq_iff_iff, Bool.or_eq_true, isMarked_rasterize_iff, isMarked_rasterize_iff,
    isMarked_rasterize_iff]
  simp only [List.mem_append, or_and_right, exists_or, and_or_left]

/--
A drawing has a cell for every column and row.  Marked are the cells in which
some projectile is seen, and every projectile that is seen has such a cell, so
that no missing cell is ever asked for.  Only the set of the points counts at
which projectiles are, and the drawing of two groups has the marks of both.
-/
theorem rasterize_marks_seen_cells
    (viewport : Viewport)
    (columns rows : UInt16) :
    (∀ entities,
      (rasterize entities viewport columns rows).cells.length = rows.toNat ∧
        (∀ cells ∈ (rasterize entities viewport columns rows).cells,
          cells.length = columns.toNat) ∧
          (∀ column row,
            (rasterize entities viewport columns rows).isMarked column row = true ↔
              columns ≠ 0 ∧ rows ≠ 0 ∧
                ∃ entity ∈ entities, viewport.contains entity.screen = true ∧
                  cellOf entity.screen.x viewport.width columns = column ∧
                    cellOf entity.screen.y viewport.height rows = row) ∧
            rasterize? entities viewport columns rows =
              some (rasterize entities viewport columns rows)) ∧
      (∀ entity : LiveEntity, columns ≠ 0 → rows ≠ 0 →
        cellOf entity.screen.x viewport.width columns < columns.toNat ∧
          cellOf entity.screen.y viewport.height rows < rows.toNat) ∧
        (∀ entities others,
          (∀ point, point ∈ entities.map LiveEntity.screen ↔ point ∈ others.map LiveEntity.screen) →
            rasterize entities viewport columns rows = rasterize others viewport columns rows) ∧
          ∀ entities others column row,
            (rasterize (entities ++ others) viewport columns rows).isMarked column row =
              ((rasterize entities viewport columns rows).isMarked column row ||
                (rasterize others viewport columns rows).isMarked column row) := by
  refine ⟨?_, ?_, ?_, ?_⟩
  · intro entities
    obtain ⟨width, height⟩ := size_rasterize entities viewport columns rows
    refine ⟨?_, ?_, fun _ _ => isMarked_rasterize_iff, rasterize?_eq_some _ _ _ _⟩
    · rw [rowCount, height]
    · intro cells member
      rw [columnCount _ cells member, width]
  · intro entity someColumn someRow
    exact ⟨cellOf_lt _ _ someColumn, cellOf_lt _ _ someRow⟩
  · intro entities others samePoints
    exact rasterize_congr samePoints viewport columns rows
  · intro entities others column row
    exact isMarked_rasterize_append entities others viewport columns rows column row

end Canvas

end Barrage
