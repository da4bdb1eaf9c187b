import Barrage.Proofs.Terminal.Screen

/-!
# Printing on the screen

Characters that are printed one after the other fill the cells of a row from
the cursor on.  `Prints` says that some commands do this with given cells, and
leave the style plain as they have found it.  What `Prints` says of parts it
says of the whole, as long as there is room in the row.

Everything the player draws is of one of two forms: the cursor is moved and
cells are printed, or the cursor is moved to the start of a row, the row is
erased, and then cells are printed.  `Idle` is what holds of the screen
between any two such drawings.
-/

namespace Barrage.Terminal

/-! ## Characters that are seen -/

/-- Every character of a text is shown in a cell. -/
def Visible (text : List Char) : Prop :=
  text.all takesCell

instance (text : List Char) : Decidable (Visible text) :=
  inferInstanceAs (Decidable (text.all takesCell))

theorem visible_cons_iff
    {character : Char}
    {rest : List Char} :
    Visible (character :: rest) ↔ takesCell character ∧ Visible rest := by
  rw [Visible, List.all_cons, Bool.and_eq_true]
  rfl

theorem visible_append_iff
    {before after : List Char} :
    Visible (before ++ after) ↔ Visible before ∧ Visible after := by
  rw [Visible, List.all_append, Bool.and_eq_true]
  rfl

theorem takesCell_of_isDigit
    {character : Char}
    (isDigit : character.isDigit) :
    takesCell character := by
  simp only [Char.isDigit, Bool.and_eq_true, decide_eq_true_iff, ge_iff_le,
    UInt32.le_iff_toNat_le] at isDigit
  obtain ⟨low, high⟩ := isDigit
  change 48 ≤ character.toNat at low
  change character.toNat ≤ 57 at high
  simp only [takesCell, Bool.and_eq_true, decide_eq_true_iff, Bool.not_eq_true',
    Bool.and_eq_false_iff, decide_eq_false_iff_not]
  omega

theorem visible_toString
    (number : Nat) :
    Visible (toString number).toList := by
  rw [Nat.toString_eq_ofList_toDigits, String.toList_ofList, Visible, List.all_eq_true]
  intro character member
  exact takesCell_of_isDigit (Nat.isDigit_of_mem_toDigits (by decide) (by decide) member)

/-! ## Cells in a row -/

/-- A text in one style. -/
def styled
    (style : Style)
    (text : List Char) : List Cell :=
  text.map (⟨·, style⟩)

@[simp]
theorem length_styled
    (style : Style)
    (text : List Char) :
    (styled style text).length = text.length :=
  List.length_map _

namespace Grid

theorem write_nil
    (grid : Grid)
    (column row : Nat) :
    grid.write column row [] = grid := by
  funext otherColumn otherRow
  rw [write]
  split <;> rfl

theorem write_append
    (grid : Grid)
    (column row : Nat)
    (cells more : List Cell) :
    grid.write column row (cells ++ more) =
      (grid.write column row cells).write (column + cells.length) row more := by
  funext otherColumn otherRow
  simp only [write]
  by_cases sameRow : otherRow = row
  · subst sameRow
    rcases Nat.lt_or_ge otherColumn column with before | after
    · have notAfter : ¬ column + cells.length ≤ otherColumn := by omega
      simp [Nat.not_le.mpr before, notAfter]
    · rcases Nat.lt_or_ge (otherColumn - column) cells.length with among | beyond
      · have notAfter : ¬ column + cells.length ≤ otherColumn := by omega
        simp [after, notAfter, List.getElem?_append_left among]
      · have rest : otherColumn - (column + cells.length) =
            otherColumn - column - cells.length := by omega
        have afterCells : column + cells.length ≤ otherColumn := by omega
        simp [after, afterCells, rest, List.getElem?_append_right beyond,
          List.getElem?_eq_none beyond]
  · simp [sameRow]

theorem write_setLine
    (grid : Grid)
    (row : Nat)
    (line : List Cell) :
    (grid.setLine row []).write 0 row line = grid.setLine row line := by
  funext otherColumn otherRow
  by_cases sameRow : otherRow = row
  · simp [write, setLine, sameRow]
  · simp [write, setLine, sameRow]

theorem setLine_setLine
    (grid : Grid)
    (row : Nat)
    (line next : List Cell) :
    (grid.setLine row line).setLine row next = grid.setLine row next := by
  funext otherColumn otherRow
  by_cases sameRow : otherRow = row
  · simp [setLine, sameRow]
  · simp [setLine, sameRow]

/-- Write rows one below the other, from a row on. -/
def writeRows
    (grid : Grid)
    (top : Nat) : List (List Cell) → Grid
  | [] => grid
  | line :: rest => (grid.write 0 top line).writeRows (top + 1) rest

theorem writeRows_apply
    (grid : Grid)
    (top : Nat)
    (lines : List (List Cell))
    (column row : Nat) :
    grid.writeRows top lines column row =
      if top ≤ row then ((lines[row - top]?).bind (·[column]?)).getD (grid column row)
      else grid column row := by
  induction lines generalizing grid top with
  | nil =>
      rw [writeRows, List.getElem?_nil]
      split <;> rfl
  | cons line rest ih =>
      rw [writeRows, ih]
      rcases Nat.lt_trichotomy row top with above | same | below
      · have notBelow : ¬ top + 1 ≤ row := by omega
        simp [write, notBelow, Nat.not_le.mpr above, Nat.ne_of_lt above]
      · subst same
        have notBelow : ¬ row + 1 ≤ row := by omega
        simp [write, notBelow]
      · have shifted : row - top = row - (top + 1) + 1 := by omega
        have atLeast : top ≤ row := Nat.le_of_lt below
        simp [write, Nat.ne_of_gt below, Nat.succ_le_of_lt below, atLeast, shifted]

end Grid

namespace Screen

/-! ## Characters and texts -/

theorem put_of_room
    {screen : Screen}
    (room : screen.column < screen.size.columns.toNat)
    (character : Char) :
    screen.put character =
      { screen with
        grid := screen.grid.write screen.column screen.row [⟨character, screen.style⟩]
        column := screen.column + 1 } := by
  simp only [put, if_pos room]

theorem take_of_visible
    {screen : Screen}
    (ground : screen.mode = .ground)
    {character : Char}
    (visible : takesCell character) :
    screen.take character = screen.put character := by
  have notEscape : character ≠ '\x1b' := by
    rintro rfl
    exact absurd visible (by decide)
  simp only [take, ground, if_neg notEscape, if_pos visible]

theorem told_print
    {size : Size}
    (grid : Grid)
    {column : Nat}
    (row : Nat)
    (style : Style)
    {character : Char}
    (room : column < size.columns.toNat)
    (visible : takesCell character) :
    (ready size grid column row style).told [.print character] =
      ready size (grid.write column row [⟨character, style⟩]) (column + 1) row style := by
  change (ready size grid column row style).take character = _
  rw [take_of_visible rfl visible, put_of_room room]
  rfl

theorem told_printAll
    {size : Size}
    (grid : Grid)
    (column row : Nat)
    (style : Style)
    {text : List Char}
    (room : column + text.length ≤ size.columns.toNat)
    (visible : Visible text) :
    (ready size grid column row style).told (Command.printAll text) =
      ready size (grid.write column row (styled style text)) (column + text.length) row style := by
  induction text generalizing grid column with
  | nil =>
      rw [styled, List.map_nil, Grid.write_nil]
      rfl
  | cons character rest ih =>
      rw [List.length_cons] at room
      obtain ⟨firstVisible, restVisible⟩ := visible_cons_iff.mp visible
      have oneMore : column + 1 + rest.length = column + (rest.length + 1) := by omega
      rw [Command.printAll, List.map_cons, told_cons,
        told_print grid row style (by omega) firstVisible]
      rw [← Command.printAll, ih _ (column + 1) (by omega) restVisible, List.length_cons, oneMore]
      exact congrArg (ready size · _ row style)
        (Grid.write_append grid column row [⟨character, style⟩] (styled style rest)).symm

end Screen

/-! ## Commands that print -/

/-- Some commands fill cells in the row of the cursor, from a plain style to a plain style. -/
def Prints
    (commands : List Command)
    (cells : List Cell) : Prop :=
  ∀ (size : Size) (grid : Grid) (column row : Nat),
    column + cells.length ≤ size.columns.toNat →
      (Screen.ready size grid column row {}).told commands =
        .ready size (grid.write column row cells) (column + cells.length) row {}

namespace Prints

theorem nil : Prints [] [] := by
  intro size grid column row room
  rw [Grid.write_nil]
  rfl

theorem append
    {before after : List Command}
    {cells more : List Cell}
    (first : Prints before cells)
    (second : Prints after more) :
    Prints (before ++ after) (cells ++ more) := by
  intro size grid column row room
  rw [List.length_append, ← Nat.add_assoc] at room
  rw [Screen.told_append, first size grid column row (by omega),
    second size _ (column + cells.length) row room, Grid.write_append, List.length_append,
    Nat.add_assoc]

theorem flatMap
    {Item : Type}
    (items : List Item)
    {commands : Item → List Command}
    {cells : Item → List Cell}
    (each : ∀ item ∈ items, Prints (commands item) (cells item)) :
    Prints (items.flatMap commands) (items.flatMap cells) := by
  induction items with
  | nil => exact nil
  | cons item rest ih =>
      rw [List.flatMap_cons, List.flatMap_cons]
      have first := each item List.mem_cons_self
      exact first.append (ih fun other member => each other (List.mem_cons_of_mem item member))

theorem text
    {characters : List Char}
    (visible : Visible characters) :
    Prints (Command.printAll characters) (styled {} characters) := by
  intro size grid column row room
  rw [length_styled] at room ⊢
  exact Screen.told_printAll grid column row {} room visible

/-- A text between commands that choose its style and take it back. -/
theorem between
    {opening closing : List Command}
    {style : Style}
    {characters : List Char}
    (chooses : ∀ size grid column row,
      (Screen.ready size grid column row {}).told opening = .ready size grid column row style)
    (takesBack : ∀ size grid column row,
      (Screen.ready size grid column row style).told closing = .ready size grid column row {})
    (visible : Visible characters) :
    Prints (opening ++ Command.printAll characters ++ closing) (styled style characters) := by
  intro size grid column row room
  rw [length_styled] at room ⊢
  rw [Screen.told_append, Screen.told_append, chooses,
    Screen.told_printAll grid column row style room visible, takesBack]

section Styled

variable {characters : List Char} (visible : Visible characters)

include visible

theorem bold :
    Prints ([.bold] ++ Command.printAll characters ++ [.plain])
      (styled { bold := true } characters) :=
  between
    (fun size grid column row => Screen.told_bold size grid column row {})
    (fun size grid column row => Screen.told_plain size grid column row _)
    visible

theorem dim :
    Prints ([.dim] ++ Command.printAll characters ++ [.plain])
      (styled { dim := true } characters) :=
  between
    (fun size grid column row => Screen.told_dim size grid column row {})
    (fun size grid column row => Screen.told_plain size grid column row _)
    visible

theorem colored
    (color : MarkerColor) :
    Prints ([.foreground color] ++ Command.printAll characters ++ [.defaultForeground])
      (styled { color := some (.ofMarker color) } characters) :=
  between
    (fun size grid column row => Screen.told_foreground size grid column row {} color)
    (fun size grid column row => Screen.told_defaultForeground size grid column row _)
    visible

end Styled

end Prints

/-! ## Drawings -/

/-- The screen shows a grid and is ready for the next drawing, wherever the cursor is. -/
def Screen.Idle
    (size : Size)
    (grid : Grid)
    (screen : Screen) : Prop :=
  ∃ column row, screen = .ready size grid column row {}

namespace Screen.Idle

variable {size : Size} {grid : Grid} {screen : Screen}

theorem eraseScreen
    (idle : screen.Idle size grid) :
    (screen.told [.eraseScreen]).Idle size .blank := by
  obtain ⟨column, row, rfl⟩ := idle
  exact ⟨column, row, told_eraseScreen size grid column row {}⟩

/-- The cursor is moved and cells are printed. -/
theorem place
    {toColumn toRow : UInt16}
    {commands : List Command}
    {cells : List Cell}
    (idle : screen.Idle size grid)
    (prints : Prints commands cells)
    (columnInside : toColumn.toNat < size.columns.toNat)
    (rowInside : toRow.toNat < size.rows.toNat)
    (room : toColumn.toNat + cells.length ≤ size.columns.toNat) :
    (screen.told (.moveTo toColumn toRow :: commands)).Idle size
      (grid.write toColumn.toNat toRow.toNat cells) := by
  obtain ⟨column, row, rfl⟩ := idle
  rw [told_cons, told_moveTo size grid column row {} columnInside rowInside,
    prints size grid toColumn.toNat toRow.toNat room]
  exact ⟨toColumn.toNat + cells.length, toRow.toNat, rfl⟩

/-- A row is erased and cells are printed from its start. -/
theorem line
    {toRow : UInt16}
    {commands : List Command}
    {cells : List Cell}
    (idle : screen.Idle size grid)
    (prints : Prints commands cells)
    (wide : 0 < size.columns.toNat)
    (rowInside : toRow.toNat < size.rows.toNat)
    (room : cells.length ≤ size.columns.toNat) :
    (screen.told (.moveTo 0 toRow :: .eraseLine :: commands)).Idle size
      (grid.setLine toRow.toNat cells) := by
  obtain ⟨column, row, rfl⟩ := idle
  have columnInside : (0 : UInt16).toNat < size.columns.toNat := wide
  have fromStart : 0 + cells.length ≤ size.columns.toNat := by omega
  rw [told_cons, told_moveTo size grid column row {} columnInside rowInside, told_cons, told_eraseLine,
    UInt16.toNat_zero, prints size _ 0 toRow.toNat fromStart, Grid.write_setLine]
  exact ⟨0 + cells.length, toRow.toNat, rfl⟩

end Screen.Idle

end Barrage.Terminal
