import Barrage.Proofs.Canvas
import Mathlib.Data.List.Sort

/-!
# Changes as a patch

Setting the cells that are listed as changes turns one canvas into the other
and touches no cell that is already right.  The list is in the order in which
a canvas is read, so that it is the only one of its kind.

Canvases of different sizes are compared as far as both of them reach.  A
patch from one to the other is right there and leaves the remaining cells as
they are.
-/

namespace Barrage

namespace CellChange

/-- Cells in the order of reading: row by row, each of them from left to right. -/
def Precedes (earlier later : CellChange) : Prop :=
  earlier.row < later.row ∨ earlier.row = later.row ∧ earlier.column < later.column

/-- The change of the same cell the other way round. -/
def opposite (change : CellChange) : CellChange :=
  { change with marked := !change.marked }

@[simp]
theorem opposite_opposite (change : CellChange) : change.opposite.opposite = change := by
  simp [opposite]

theorem Precedes.opposite
    {earlier later : CellChange}
    (precedes : earlier.Precedes later) :
    earlier.opposite.Precedes later.opposite :=
  precedes

theorem Precedes.differ
    {earlier later : CellChange}
    (precedes : earlier.Precedes later) :
    (earlier.column, earlier.row) ≠ (later.column, later.row) := by
  intro same
  obtain ⟨sameColumn, sameRow⟩ := Prod.mk.inj same
  rcases precedes with above | ⟨-, before⟩
  · exact UInt16.lt_irrefl later.row (sameRow ▸ above)
  · exact UInt16.lt_irrefl later.column (sameColumn ▸ before)

theorem Precedes.asymm
    {earlier later : CellChange}
    (precedes : earlier.Precedes later) :
    ¬ later.Precedes earlier := by
  simp only [Precedes, UInt16.lt_iff_toNat_lt, ← UInt16.toNat_inj] at precedes ⊢
  omega

instance : Std.Irrefl Precedes where
  irrefl _ precedes := precedes.asymm precedes

instance : Std.Antisymm Precedes where
  antisymm _ _ precedes reversed := absurd reversed precedes.asymm

end CellChange

namespace Canvas

/-! ## The order of changes -/

theorem pairwise_zipIdx
    {α : Type}
    (items : List α) :
    items.zipIdx.Pairwise fun earlier later => earlier.2 < later.2 := by
  apply List.pairwise_map.mp
  rw [List.zipIdx_map_snd]
  exact List.pairwise_lt_range'

theorem index_lt_of_mem_zipIdx
    {α : Type}
    {items : List α}
    {item : α × Nat}
    (member : item ∈ items.zipIdx) :
    item.2 < items.length := by
  rw [List.mem_zipIdx_iff_getElem?] at member
  exact (List.getElem?_eq_some_iff.mp member).1

/-- Numbers of cells keep their order as words of 16 bits. -/
theorem toUInt16_lt
    {first second : Nat}
    (before : first < second)
    (small : second < UInt16.size) :
    first.toUInt16 < second.toUInt16 := by
  rw [UInt16.lt_iff_toNat_lt, Nat.toUInt16_eq, Nat.toUInt16_eq,
    UInt16.toNat_ofNat_of_lt' (Nat.lt_trans before small), UInt16.toNat_ofNat_of_lt' small]
  exact before

theorem rowChanges_ordered
    {before after : List Bool}
    (row : Nat)
    (short : after.length < UInt16.size) :
    (rowChanges row before after).Pairwise CellChange.Precedes := by
  rw [rowChanges, List.pairwise_filterMap]
  refine (pairwise_zipIdx (before.zip after)).imp_of_mem ?_
  rintro ⟨⟨old, new⟩, column⟩ ⟨⟨laterOld, laterNew⟩, laterColumn⟩ - member left change isChange
    later isLater
  have inside : laterColumn < UInt16.size := by
    have := index_lt_of_mem_zipIdx member
    rw [List.length_zip] at this
    omega
  dsimp only at isChange isLater
  split at isChange
  · cases isChange
  split at isLater
  · cases isLater
  cases isChange
  cases isLater
  exact Or.inr ⟨rfl, toUInt16_lt left inside⟩

theorem rows_lt (canvas : Canvas) : canvas.cells.length < UInt16.size := by
  rw [canvas.rowCount]
  exact canvas.rows.toNat_lt

theorem columns_lt
    {canvas : Canvas}
    {cells : List Bool}
    (member : cells ∈ canvas.cells) :
    cells.length < UInt16.size := by
  rw [canvas.columnCount cells member]
  exact canvas.columns.toNat_lt

/-- Changes are listed in the order of reading. -/
theorem changes_ordered
    (before after : Canvas) :
    (before.changes after).Pairwise CellChange.Precedes := by
  rw [changes, List.pairwise_flatMap]
  constructor
  · rintro ⟨⟨oldRow, newRow⟩, row⟩ member
    rw [List.mem_zipIdx_iff_getElem?, List.getElem?_zip_eq_some] at member
    exact rowChanges_ordered row (columns_lt (List.mem_of_getElem? member.2))
  · refine (pairwise_zipIdx (before.cells.zip after.cells)).imp_of_mem ?_
    rintro ⟨⟨oldRow, newRow⟩, row⟩ ⟨⟨laterOldRow, laterNewRow⟩, laterRow⟩ - member above
      change isChange later isLater
    have inside : laterRow < UInt16.size := by
      have := index_lt_of_mem_zipIdx member
      have := rows_lt after
      rw [List.length_zip] at *
      omega
    obtain ⟨column, _, _, -, -, -, rfl⟩ := mem_rowChanges_iff.mp isChange
    obtain ⟨laterColumn, _, _, -, -, -, rfl⟩ := mem_rowChanges_iff.mp isLater
    exact Or.inl (toUInt16_lt above inside)

theorem opposite_mem_changes
    {before after : Canvas}
    {change : CellChange}
    (member : change ∈ before.changes after) :
    change.opposite ∈ after.changes before := by
  obtain ⟨⟨hadCell, hasCell⟩, differ, marked⟩ := mem_changes_iff_common.mp member
  rw [mem_changes_iff_common]
  refine ⟨⟨hasCell, hadCell⟩, Ne.symm differ, ?_⟩
  change (!change.marked) = before.isMarked change.column.toNat change.row.toNat
  rw [marked, Bool.not_eq]
  exact Ne.symm differ

/-- The changes back are the same cells with the opposite marks. -/
theorem changes_swap
    (before after : Canvas) :
    after.changes before = (before.changes after).map CellChange.opposite := by
  have ordered : ((before.changes after).map CellChange.opposite).Pairwise CellChange.Precedes :=
    (changes_ordered before after).map _ fun _ _ precedes => precedes.opposite
  apply (changes_ordered after before).eq_of_mem_iff ordered
  intro change
  rw [List.mem_map]
  constructor
  · intro member
    exact ⟨change.opposite, opposite_mem_changes member, change.opposite_opposite⟩
  · rintro ⟨other, member, rfl⟩
    exact opposite_mem_changes member

/-! ## Patches -/

theorem isMarked_of_not_hasCell
    {canvas : Canvas}
    {column row : Nat}
    (outside : ¬ canvas.HasCell column row) :
    canvas.isMarked column row = false := by
  apply isMarked_eq_false_of_outside
  rw [HasCell] at outside
  omega

/-- Give a cell the mark of a change. -/
def apply
    (canvas : Canvas)
    (change : CellChange) : Canvas where
  columns := canvas.columns
  rows := canvas.rows
  cells := canvas.cells.modify change.row.toNat (·.set change.column.toNat change.marked)
  rowCount := by rw [List.length_modify, canvas.rowCount]
  columnCount :=
    length_of_mem_modify _ (fun _ => List.length_set) change.row.toNat canvas.columnCount

/-- Apply changes one after the other. -/
def patched
    (canvas : Canvas)
    (changes : List CellChange) : Canvas :=
  changes.foldl apply canvas

theorem isMarked_apply
    {canvas : Canvas}
    {change : CellChange}
    (hasCell : canvas.HasCell change.column.toNat change.row.toNat)
    (column row : Nat) :
    (canvas.apply change).isMarked column row =
      if change.column.toNat = column ∧ change.row.toNat = row then change.marked
      else canvas.isMarked column row := by
  simp only [eq_comm (b := column), eq_comm (b := row)]
  exact isMarked_of_cells_eq rfl hasCell.1 hasCell.2 column row

theorem size_patched
    (canvas : Canvas)
    (changes : List CellChange) :
    (canvas.patched changes).columns = canvas.columns ∧
      (canvas.patched changes).rows = canvas.rows := by
  induction changes generalizing canvas with
  | nil => exact ⟨rfl, rfl⟩
  | cons change rest ih => exact ih (canvas.apply change)

/-- A patch whose changes lead to some canvas: the listed cells are as there, the others as before. -/
theorem isMarked_patched
    {canvas : Canvas}
    (target : Canvas)
    {changes : List CellChange}
    (hasCell : ∀ change ∈ changes, canvas.HasCell change.column.toNat change.row.toNat)
    (leads : ∀ change ∈ changes,
      change.marked = target.isMarked change.column.toNat change.row.toNat)
    (column row : Nat) :
    (canvas.patched changes).isMarked column row =
      if ∃ change ∈ changes, change.column.toNat = column ∧ change.row.toNat = row
      then target.isMarked column row
      else canvas.isMarked column row := by
  induction changes generalizing canvas with
  | nil => simp [patched]
  | cons change rest ih =>
      have restHasCell : ∀ later ∈ rest,
          (canvas.apply change).HasCell later.column.toNat later.row.toNat :=
        fun later member => hasCell later (List.mem_cons_of_mem change member)
      have restLeads : ∀ later ∈ rest,
          later.marked = target.isMarked later.column.toNat later.row.toNat :=
        fun later member => leads later (List.mem_cons_of_mem change member)
      have first := leads change List.mem_cons_self
      rw [patched, List.foldl_cons, ← patched, ih restHasCell restLeads,
        isMarked_apply (hasCell change List.mem_cons_self)]
      simp only [List.exists_mem_cons_iff]
      by_cases here : change.column.toNat = column ∧ change.row.toNat = row
      · obtain ⟨rfl, rfl⟩ := here
        simp [first]
      · simp [here]

/-- The cells that are listed: those of both canvases that differ. -/
theorem exists_change_iff
    {before after : Canvas}
    {column row : Nat} :
    (∃ change ∈ before.changes after, change.column.toNat = column ∧ change.row.toNat = row) ↔
      (before.HasCell column row ∧ after.HasCell column row) ∧
        before.isMarked column row ≠ after.isMarked column row := by
  constructor
  · rintro ⟨change, member, rfl, rfl⟩
    obtain ⟨common, differ, -⟩ := mem_changes_iff_common.mp member
    exact ⟨common, differ⟩
  · rintro ⟨common, differ⟩
    obtain ⟨sameColumn, sameRow⟩ := common.1.toNat_toUInt16
    refine ⟨⟨column.toUInt16, row.toUInt16, after.isMarked column row⟩, ?_, sameColumn, sameRow⟩
    rw [mem_changes_iff_common, sameColumn, sameRow]
    exact ⟨common, differ, rfl⟩

/-- After the patch the cells of both canvases are right, and the others are as they were. -/
theorem isMarked_patched_changes
    (before after : Canvas)
    (column row : Nat) :
    (before.patched (before.changes after)).isMarked column row =
      if before.HasCell column row ∧ after.HasCell column row then after.isMarked column row
      else before.isMarked column row := by
  rw [isMarked_patched after
    (fun _ member => (mem_changes_iff_common.mp member).1.1)
    (fun _ member => (mem_changes_iff_common.mp member).2.2)]
  by_cases common : before.HasCell column row ∧ after.HasCell column row
  · rw [if_pos common]
    split
    next => rfl
    next notListed =>
      apply not_not.mp
      intro differ
      exact notListed (exists_change_iff.mpr ⟨common, differ⟩)
  · rw [if_neg common, if_neg fun listed => common (exists_change_iff.mp listed).1]

section SameSize

variable
    {before after : Canvas}
    (sameColumns : before.columns = after.columns)
    (sameRows : before.rows = after.rows)

include sameColumns sameRows

theorem patched_changes : before.patched (before.changes after) = after := by
  obtain ⟨columns, rows⟩ := before.size_patched (before.changes after)
  apply ext_isMarked (columns.trans sameColumns) (rows.trans sameRows)
  intro column row
  rw [isMarked_patched_changes]
  split
  next => rfl
  next outside =>
    have notInBefore : ¬ before.HasCell column row := by
      intro hadCell
      refine outside ⟨hadCell, ?_⟩
      rwa [HasCell, ← sameColumns, ← sameRows]
    have notInAfter : ¬ after.HasCell column row := by
      rwa [HasCell, ← sameColumns, ← sameRows]
    rw [isMarked_of_not_hasCell notInBefore, isMarked_of_not_hasCell notInAfter]

theorem changes_eq_nil_iff : before.changes after = [] ↔ before = after := by
  constructor
  · intro noChanges
    have patched := patched_changes sameColumns sameRows
    rwa [noChanges] at patched
  · rintro rfl
    apply List.eq_nil_iff_forall_not_mem.mpr
    intro change member
    exact (mem_changes_iff_common.mp member).2.1 rfl

end SameSize

/--
The changes from one canvas to another are the cells of both that differ, each
once and with its new mark, in the order of reading.  The changes back are the
same cells with the opposite marks.  Between canvases of one size the changes
are a patch that leads from the one to the other, and it is empty only if they
are equal.
-/
theorem changes_are_exact_patch
    (before after : Canvas) :
    (∀ change, change ∈ before.changes after ↔
      (before.HasCell change.column.toNat change.row.toNat ∧
        after.HasCell change.column.toNat change.row.toNat) ∧
        before.isMarked change.column.toNat change.row.toNat ≠
            after.isMarked change.column.toNat change.row.toNat ∧
          change.marked = after.isMarked change.column.toNat change.row.toNat) ∧
      (before.changes after).Pairwise CellChange.Precedes ∧
        ((before.changes after).map fun change => (change.column, change.row)).Nodup ∧
          after.changes before = (before.changes after).map CellChange.opposite ∧
            (before.columns = after.columns → before.rows = after.rows →
              before.patched (before.changes after) = after ∧
                (before.changes after = [] ↔ before = after)) := by
  refine ⟨fun _ => mem_changes_iff_common, changes_ordered before after, ?_,
    changes_swap before after, ?_⟩
  · apply List.pairwise_map.mpr
    exact (changes_ordered before after).imp CellChange.Precedes.differ
  · intro sameColumns sameRows
    exact ⟨patched_changes sameColumns sameRows, changes_eq_nil_iff sameColumns sameRows⟩

end Canvas

end Barrage
