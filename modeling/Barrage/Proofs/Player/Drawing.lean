import Barrage.Player.Session
import Barrage.Proofs.Canvas
import Barrage.Proofs.Terminal.Printing

/-!
# What the player draws

What the drawing operations send is written out: the line of hints
(`drawHints_eq`), a canvas row by row and cell by cell (`drawCanvas_eq`), and
the words of the status (`drawStatus_eq`).

`Player.picture` is the grid that the player means to show: the hints in the
first row, the canvas below them, and the status below the canvas.  Each of
the drawing operations is shown to change a grid in the way its name says, as
long as the terminal has room, and so to lead from one picture to the next.

The canvas and the two lines never share a row.  This is why a canvas can be
painted before the lines or after them, and why a change of the canvas leaves
the lines as they are.
-/

namespace Barrage

open Barrage.Terminal

/-! ## Room in the terminal -/

/-- A terminal has the columns of a canvas, and its rows with one above and one below them. -/
structure CanvasSettings.FitsIn
    (canvas : CanvasSettings)
    (size : Size) : Prop where
  columns : canvas.columns.toNat ≤ size.columns.toNat
  rows : canvas.rows.toNat + 2 ≤ size.rows.toNat

instance
    (canvas : CanvasSettings)
    (size : Size) : Decidable (canvas.FitsIn size) :=
  decidable_of_iff
    (canvas.columns.toNat ≤ size.columns.toNat ∧ canvas.rows.toNat + 2 ≤ size.rows.toNat)
    ⟨fun ⟨columns, rows⟩ => ⟨columns, rows⟩, fun room => ⟨room.columns, room.rows⟩⟩

namespace Player

/-! ## Texts -/

theorem visible_phaseWord
    (phase : Phase) :
    Visible (phaseWord phase).toList := by
  cases phase <;> decide

theorem visible_statusText
    (player : Player) :
    Visible player.statusText.toList := by
  have ticks : Visible " Tick ".toList := by decide
  have frame : Visible " | Frame ".toList := by decide
  have slash : Visible "/".toList := by decide
  have bar : Visible " | ".toList := by decide
  have live : Visible " live | ".toList := by decide
  have space : Visible " ".toList := by decide
  have pause : Visible (if player.paused then " [paused]" else "").toList := by
    cases player.paused <;> decide
  simp only [statusText, String.toList_append, visible_append_iff]
  exact ⟨⟨⟨⟨⟨⟨⟨ticks, visible_toString _⟩, frame⟩, visible_toString _⟩, slash⟩, visible_toString _⟩,
    bar⟩, ⟨⟨⟨visible_toString _, live⟩, visible_phaseWord _⟩, pause⟩, space⟩

/-! ## What is sent -/

/-- The line of hints: its row is cleared, and the keys stand out from what they do. -/
def hintsRedraw : List Command :=
  [.moveTo 0 0, .eraseLine, .print ' ', .bold] ++ "[Space]".toList.map .print ++
    [.plain, .dim] ++ " pause".toList.map .print ++ [.plain] ++ "  ".toList.map .print ++
      [.bold] ++ "[q][Esc]".toList.map .print ++ [.plain, .dim] ++ " quit".toList.map .print ++
        [.plain]

theorem drawHints_eq : drawHints = hintsRedraw := by
  decide

/-- A canvas of this size: the cursor is moved to each row, and each of its cells is printed. -/
def canvasRedraw
    (settings : CanvasSettings)
    (marks : Canvas) : List Command :=
  (List.range settings.rows.toNat).flatMap fun row =>
    .moveTo 0 (row + 1).toUInt16 ::
      (List.range settings.columns.toNat).flatMap fun column =>
        if marks.isMarked column row then
          [.foreground settings.markerColor, .print settings.marker, .defaultForeground]
        else [.print ' ']

theorem drawCanvas_eq
    {player : Player}
    (columns : player.canvas.columns = player.settings.canvas.columns)
    (rows : player.canvas.rows = player.settings.canvas.rows) :
    player.drawCanvas = canvasRedraw player.settings.canvas player.canvas := by
  have below (row : Nat) : canvasRow row.toUInt16 = (row + 1).toUInt16 :=
    (UInt16.ofNat_add row 1).symm
  rw [drawCanvas, player.canvas.zipIdx_cells, List.flatMap_map, canvasRedraw, columns, rows]
  simp only [drawRow, List.flatMap_map, below, drawCell]

/-- The words of the status before the mark of a pause. -/
def statusWords (player : Player) : String :=
  let playback := player.playback
  let phase :=
    match playback.phase with
    | .running => "running"
    | .draining => "draining"
    | .finished => "finished"
  s!" Tick {player.ticks} | Frame {playback.cursor}/{playback.lastFrame} | " ++
    s!"{player.live} live | {phase}"

theorem statusWords_eq (player : Player) :
    player.statusWords =
      s!" Tick {player.ticks} | Frame {player.playback.cursor}/{player.playback.lastFrame} | " ++
        s!"{player.live} live | {phaseWord player.playback.phase}" := by
  rw [statusWords]
  cases player.playback.phase <;> rfl

theorem statusText_eq (player : Player) :
    player.statusText =
      player.statusWords ++ if player.paused then " [paused] " else " " := by
  rw [statusText, statusWords_eq]
  cases player.paused <;>
    simp only [String.append_assoc] <;>
    rfl

/-- The status with or without the mark of a pause, if the terminal has the row for it. -/
def statusRedraw
    (player : Player)
    (marked : Bool) : List Command :=
  let row := player.settings.canvas.rows + 1
  if player.terminal.rows ≤ row then []
  else
    [.moveTo 0 row, .eraseLine, .dim] ++
      (player.statusWords ++ if marked then " [paused] " else " ").toList.map .print ++ [.plain]

theorem drawStatus_eq (player : Player) :
    player.drawStatus = player.statusRedraw player.paused := by
  rw [drawStatus, statusText_eq]
  rfl

/-! ## The picture -/

/-- Bright keys and, less bright, what they do. -/
def hintCells (keys effect : String) : List Cell :=
  styled { bold := true } keys.toList ++ styled { dim := true } effect.toList

/-- The line of hints. -/
def hintLine : List Cell :=
  styled {} [' '] ++ hintCells "[Space]" " pause" ++ styled {} [' ', ' '] ++
    hintCells "[q][Esc]" " quit"

/-- The line of status. -/
def statusLine (player : Player) : List Cell :=
  styled { dim := true }
    (player.statusWords ++ if player.paused then " [paused] " else " ").toList

/-- The cell of the screen for a cell of the canvas: the mark in its colour, or nothing. -/
def markCell
    (settings : CanvasSettings)
    (marked : Bool) : Cell :=
  if marked then ⟨settings.marker, { color := some (.ofMarker settings.markerColor) }⟩ else {}

/-- A grid with a canvas in place of its cells below the first row. -/
def painted
    (settings : CanvasSettings)
    (canvas : Canvas)
    (grid : Grid) : Grid :=
  fun column row =>
    if 1 ≤ row ∧ row ≤ canvas.rows.toNat ∧ column < canvas.columns.toNat then
      markCell settings (canvas.isMarked column (row - 1))
    else grid column row

/-- The two lines, with nothing between them. -/
def frame (player : Player) : Grid :=
  (Grid.blank.setLine 0 hintLine).setLine (player.settings.canvas.rows.toNat + 1) player.statusLine

/-- What the player means to show. -/
def picture (player : Player) : Grid :=
  painted player.settings.canvas player.canvas player.frame

/-- The terminal has room for the canvas, and its rows for the two lines. -/
structure Fits (player : Player) : Prop where
  canvas : player.settings.canvas.FitsIn player.terminal
  hints : hintLine.length ≤ player.terminal.columns.toNat
  status : player.statusLine.length ≤ player.terminal.columns.toNat

instance (player : Player) : Decidable player.Fits :=
  decidable_of_iff
    (player.settings.canvas.FitsIn player.terminal ∧
      hintLine.length ≤ player.terminal.columns.toNat ∧
        player.statusLine.length ≤ player.terminal.columns.toNat)
    ⟨fun ⟨canvas, hints, status⟩ => ⟨canvas, hints, status⟩,
      fun fits => ⟨fits.canvas, fits.hints, fits.status⟩⟩

theorem Fits.wide
    {player : Player}
    (fits : player.Fits) :
    0 < player.terminal.columns.toNat :=
  Nat.lt_of_lt_of_le (by decide) fits.hints

/-- A line outside of the canvas and the canvas can be drawn in either order. -/
theorem painted_setLine
    (settings : CanvasSettings)
    (canvas : Canvas)
    (grid : Grid)
    {row : Nat}
    (line : List Cell)
    (outside : row = 0 ∨ canvas.rows.toNat < row) :
    painted settings canvas (grid.setLine row line) =
      (painted settings canvas grid).setLine row line := by
  funext otherColumn otherRow
  by_cases sameRow : otherRow = row
  · have notInside : ¬ (1 ≤ otherRow ∧ otherRow ≤ canvas.rows.toNat ∧
        otherColumn < canvas.columns.toNat) := by omega
    simp [painted, Grid.setLine, sameRow ▸ notInside, sameRow]
  · simp [painted, Grid.setLine, sameRow]

/-! ## The hints -/

theorem prints_hint
    {keys effect : String}
    (keysVisible : Visible keys.toList)
    (effectVisible : Visible effect.toList) :
    Prints (hint keys effect) (hintCells keys effect) := by
  have both := (Prints.bold keysVisible).append (Prints.dim effectVisible)
  simp only [List.append_assoc, List.cons_append, List.nil_append] at both
  simpa only [hint, hintCells, List.append_assoc, List.cons_append, List.nil_append] using both

theorem idle_drawHints
    {size : Size}
    {grid : Grid}
    {screen : Screen}
    (idle : screen.Idle size grid)
    (room : hintLine.length ≤ size.columns.toNat)
    (tall : 0 < size.rows.toNat) :
    (screen.told drawHints).Idle size (grid.setLine 0 hintLine) := by
  have start : Prints (Command.printAll [' ']) _ := Prints.text (by decide)
  have pause : Prints (hint "[Space]" " pause") _ := prints_hint (by decide) (by decide)
  have gap : Prints (Command.printAll [' ', ' ']) _ := Prints.text (by decide)
  have quit : Prints (hint "[q][Esc]" " quit") _ := prints_hint (by decide) (by decide)
  have wide : 0 < size.columns.toNat := Nat.lt_of_lt_of_le (by decide) room
  exact idle.line (((start.append pause).append gap).append quit) wide tall room

/-! ## The canvas -/

section Canvas

variable {settings : CanvasSettings}

theorem prints_drawCell
    (markerVisible : takesCell settings.marker)
    (marked : Bool) :
    Prints (drawCell settings marked) [markCell settings marked] := by
  cases marked with
  | false =>
      have space : Visible [' '] := by decide
      exact Prints.text space
  | true =>
      have visible : Visible [settings.marker] := visible_cons_iff.mpr ⟨markerVisible, rfl⟩
      exact Prints.colored visible settings.markerColor

theorem prints_drawCells
    (markerVisible : takesCell settings.marker)
    (cells : List Bool) :
    Prints (cells.flatMap (drawCell settings)) (cells.map (markCell settings)) := by
  rw [List.map_eq_flatMap]
  exact Prints.flatMap cells fun marked _ => prints_drawCell markerVisible marked

variable {size : Size} {grid : Grid} {screen : Screen}

/-- Rows that are drawn one after the other are written one below the other. -/
theorem idle_drawRows
    (markerVisible : takesCell settings.marker)
    (wide : 0 < size.columns.toNat)
    {rows : List (List Bool)}
    (top : Nat)
    (idle : screen.Idle size grid)
    (narrow : ∀ cells ∈ rows, cells.length ≤ size.columns.toNat)
    (tall : top + rows.length < size.rows.toNat) :
    (screen.told ((rows.zipIdx top).flatMap fun (cells, row) => drawRow settings row cells)).Idle
      size (grid.writeRows (top + 1) (rows.map (·.map (markCell settings)))) := by
  induction rows generalizing top grid screen with
  | nil => exact idle
  | cons cells rest ih =>
      rw [List.length_cons] at tall
      have representable := size.rows.toNat_lt
      have place : top.toUInt16.toNat = top := UInt16.toNat_ofNat_of_lt' (by
        change top < 2 ^ 16
        omega)
      have below : top.toUInt16.toNat < size.rows.toNat := by
        rw [place]
        omega
      have rowBelow : (canvasRow top.toUInt16).toNat = top + 1 := by
        rw [canvasRow, Screen.toNat_add_one below, place]
      have columnInside : (0 : UInt16).toNat < size.columns.toNat := wide
      have room : (0 : UInt16).toNat + (cells.map (markCell settings)).length ≤
          size.columns.toNat := by
        rw [List.length_map, UInt16.toNat_zero, Nat.zero_add]
        exact narrow cells List.mem_cons_self
      have first := idle.place (prints_drawCells markerVisible cells) columnInside
        (by rw [rowBelow]; omega) room
      rw [rowBelow] at first
      rw [List.zipIdx_cons, List.flatMap_cons, Screen.told_append]
      exact ih (top + 1) first
        (fun other member => narrow other (List.mem_cons_of_mem cells member)) (by omega)

theorem writeRows_cells
    (settings : CanvasSettings)
    (canvas : Canvas)
    (grid : Grid) :
    grid.writeRows 1 (canvas.cells.map (·.map (markCell settings))) =
      painted settings canvas grid := by
  funext column row
  rw [Grid.writeRows_apply, painted]
  by_cases inside : 1 ≤ row ∧ row ≤ canvas.rows.toNat ∧ column < canvas.columns.toNat
  · obtain ⟨belowHints, aboveStatus, columnInside⟩ := inside
    obtain ⟨cells, rowFound, cellFound⟩ :=
      Canvas.exists_getElem?
        (⟨columnInside, by omega⟩ : canvas.HasCell column (row - 1))
    rw [if_pos belowHints, if_pos ⟨belowHints, aboveStatus, columnInside⟩]
    simp [rowFound, cellFound]
  · rw [if_neg inside]
    split
    next belowHints =>
      cases rowFound : canvas.cells[row - 1]? with
      | none => simp [rowFound]
      | some cells =>
          cases cellFound : cells[column]? with
          | none => simp [rowFound, cellFound]
          | some cell =>
              obtain ⟨columnInside, rowInside⟩ := Canvas.hasCell_of_getElem? rowFound cellFound
              exact absurd ⟨belowHints, by omega, columnInside⟩ inside
    next => rfl

/--
Changes that are drawn one after the other.  The grid differs from the wanted
one only where a change is still to be drawn.
-/
theorem idle_drawChanges
    (markerVisible : takesCell settings.marker)
    {wanted : Grid}
    (changes : List CellChange)
    (idle : screen.Idle size grid)
    (inside : ∀ change ∈ changes,
      change.column.toNat < size.columns.toNat ∧ change.row.toNat + 1 < size.rows.toNat)
    (right : ∀ change ∈ changes,
      markCell settings change.marked = wanted change.column.toNat (change.row.toNat + 1))
    (pending : ∀ column row, grid column row = wanted column row ∨
      ∃ change ∈ changes, change.column.toNat = column ∧ change.row.toNat + 1 = row) :
    (screen.told (drawChanges settings changes)).Idle size wanted := by
  induction changes generalizing grid screen with
  | nil =>
      have settled : grid = wanted := by
        funext column row
        rcases pending column row with same | ⟨change, member, -⟩
        · exact same
        · cases member
      rw [← settled]
      exact idle
  | cons change rest ih =>
      obtain ⟨columnInside, rowInside⟩ := inside change List.mem_cons_self
      have below : (canvasRow change.row).toNat = change.row.toNat + 1 :=
        Screen.toNat_add_one (Nat.lt_of_succ_lt rowInside)
      have room : change.column.toNat + [markCell settings change.marked].length ≤
          size.columns.toNat := columnInside
      have first := idle.place (prints_drawCell markerVisible change.marked) columnInside
        (by rw [below]; exact rowInside) room
      rw [below] at first
      rw [drawChanges, List.flatMap_cons, Screen.told_append]
      refine ih first (fun other member => inside other (List.mem_cons_of_mem change member))
        (fun other member => right other (List.mem_cons_of_mem change member)) ?_
      intro column row
      by_cases here : row = change.row.toNat + 1 ∧ column = change.column.toNat
      · left
        obtain ⟨rfl, rfl⟩ := here
        simp [Grid.write, right change List.mem_cons_self]
      · have unchanged : grid.write change.column.toNat (change.row.toNat + 1)
            [markCell settings change.marked] column row = grid column row := by
          rw [Grid.write]
          split
          next after =>
            have beyond : 1 ≤ column - change.column.toNat := by omega
            rw [List.getElem?_eq_none beyond, Option.getD_none]
          next => rfl
        rw [unchanged]
        rcases pending column row with same | ⟨other, member, sameColumn, sameRow⟩
        · exact .inl same
        · rcases List.mem_cons.mp member with rfl | later
          · exact absurd ⟨sameRow.symm, sameColumn.symm⟩ here
          · exact .inr ⟨other, later, sameColumn, sameRow⟩

/-- The changes between two canvases turn the picture of one into that of the other. -/
theorem idle_drawCanvasChanges
    (markerVisible : takesCell settings.marker)
    {before after : Canvas}
    (sameColumns : before.columns = after.columns)
    (sameRows : before.rows = after.rows)
    (narrow : after.columns.toNat ≤ size.columns.toNat)
    (tall : after.rows.toNat + 1 ≤ size.rows.toNat)
    (idle : screen.Idle size (painted settings before grid)) :
    (screen.told (drawChanges settings (before.changes after))).Idle size
      (painted settings after grid) := by
  refine idle_drawChanges markerVisible (before.changes after) idle ?_ ?_ ?_
  · intro change member
    rw [Canvas.mem_changes_iff sameColumns sameRows] at member
    obtain ⟨columnInside, rowInside, -⟩ := member
    exact ⟨Nat.lt_of_lt_of_le columnInside narrow, by omega⟩
  · intro change member
    rw [Canvas.mem_changes_iff sameColumns sameRows] at member
    obtain ⟨columnInside, rowInside, -, marked⟩ := member
    rw [painted, if_pos ⟨Nat.le_add_left 1 _, rowInside, columnInside⟩, Nat.add_sub_cancel, marked]
  · intro column row
    rw [painted, painted, sameColumns, sameRows]
    split
    next inside =>
      obtain ⟨belowHints, aboveStatus, columnInside⟩ := inside
      by_cases same : before.isMarked column (row - 1) = after.isMarked column (row - 1)
      · left
        rw [same]
      · right
        have columnKept : column.toUInt16.toNat = column :=
          UInt16.toNat_ofNat_of_lt' (Nat.lt_trans columnInside after.columns.toNat_lt)
        have rowInside : row - 1 < after.rows.toNat := by omega
        have rowKept : (row - 1).toUInt16.toNat = row - 1 :=
          UInt16.toNat_ofNat_of_lt' (Nat.lt_trans rowInside after.rows.toNat_lt)
        refine ⟨⟨column.toUInt16, (row - 1).toUInt16, after.isMarked column (row - 1)⟩, ?_,
          columnKept, ?_⟩
        · rw [Canvas.mem_changes_iff sameColumns sameRows]
          simp only [columnKept, rowKept]
          exact ⟨columnInside, rowInside, same, trivial⟩
        · simp only [rowKept]
          omega
    next => exact .inl rfl

end Canvas

/-! ## Whole pictures -/

section Picture

variable {player : Player} {grid : Grid} {screen : Screen}

/-- The status needs its row and room for its text, whatever room the canvas has. -/
theorem idle_drawStatus_of_room
    (rowInside : player.settings.canvas.rows.toNat + 1 < player.terminal.rows.toNat)
    (wide : 0 < player.terminal.columns.toNat)
    (room : player.statusLine.length ≤ player.terminal.columns.toNat)
    (idle : screen.Idle player.terminal grid) :
    (screen.told player.drawStatus).Idle player.terminal
      (grid.setLine (player.settings.canvas.rows.toNat + 1) player.statusLine) := by
  have below : player.statusRow.toNat = player.settings.canvas.rows.toNat + 1 :=
    Screen.toNat_add_one (Nat.lt_of_succ_lt rowInside)
  have notOmitted : ¬ player.terminal.rows ≤ player.statusRow := by
    rw [UInt16.le_iff_toNat_le, below]
    exact Nat.not_le.mpr rowInside
  have visible := player.visible_statusText
  rw [statusText_eq] at visible
  have dark : Prints _ player.statusLine := Prints.dim visible
  have drawn := idle.line dark wide (by rw [below]; exact rowInside) room
  rw [below] at drawn
  rw [drawStatus, if_neg notOmitted, statusText_eq]
  simp only [List.cons_append, List.nil_append] at drawn ⊢
  exact drawn

theorem idle_drawStatus
    (fits : player.Fits)
    (idle : screen.Idle player.terminal grid) :
    (screen.told player.drawStatus).Idle player.terminal
      (grid.setLine (player.settings.canvas.rows.toNat + 1) player.statusLine) :=
  idle_drawStatus_of_room fits.canvas.rows fits.wide fits.status idle

/-- On an empty screen, drawing everything leaves the picture of the player. -/
theorem idle_drawAll
    (markerVisible : takesCell player.settings.canvas.marker)
    (columns : player.canvas.columns = player.settings.canvas.columns)
    (rows : player.canvas.rows = player.settings.canvas.rows)
    (fits : player.Fits)
    (idle : screen.Idle player.terminal .blank) :
    (screen.told player.drawAll).Idle player.terminal player.picture := by
  have tall := fits.canvas.rows
  have narrow : ∀ cells ∈ player.canvas.cells, cells.length ≤ player.terminal.columns.toNat := by
    intro cells member
    rw [player.canvas.columnCount cells member, columns]
    exact fits.canvas.columns
  have rowsFit : 0 + player.canvas.cells.length < player.terminal.rows.toNat := by
    rw [player.canvas.rowCount, rows]
    omega
  have hints := idle_drawHints idle fits.hints (by omega)
  have canvas := idle_drawRows markerVisible fits.wide 0 hints narrow rowsFit
  rw [Nat.zero_add, writeRows_cells] at canvas
  have status := idle_drawStatus fits canvas
  have outside : player.canvas.rows.toNat < player.settings.canvas.rows.toNat + 1 := by
    rw [rows]
    exact Nat.lt_succ_self _
  rw [← painted_setLine player.settings.canvas player.canvas _ _ (.inr outside)] at status
  rw [drawAll, Screen.told_append, Screen.told_append, drawCanvas, picture, frame]
  exact status

end Picture

end Player

end Barrage
