import Barrage.Terminal.Command

/-!
# The screen of a terminal

A terminal as it is seen from outside: it takes the characters that are sent
to it, one after the other, and shows a grid of cells.  Most characters fill
the cell under the cursor and move the cursor one column to the right.  At the
right end of a row the cursor stays behind the last column, and the next
character starts a new row, for which the screen scrolls if it has to.

A control sequence is an escape character, a bracket, numbers with semicolons
between them, and a letter.  The screen knows those that move the cursor,
erase the screen or a row of it, and choose a style.  Everything else leaves
the grid as it is.

When the size of a terminal changes, nothing is known of what it shows
afterwards: `resize` takes any arrangement.
-/

namespace Barrage.Terminal

/-! ## Cells -/

/-- A colour as a terminal is told it. -/
inductive Color
  | indexed (index : Nat)
  | rgb (red green blue : Nat)
deriving DecidableEq, Repr

/-- The colour of a mark. -/
def Color.ofMarker : MarkerColor → Color
  | .named color => .indexed (paletteIndex color)
  | .rgb red green blue => .rgb red.toNat green.toNat blue.toNat

/-- How a character is shown. -/
structure Style where
  color : Option Color := none
  bold : Bool := false
  dim : Bool := false
deriving DecidableEq, Repr

/-- A cell of the screen. -/
structure Cell where
  character : Char := ' '
  style : Style := {}
deriving DecidableEq, Repr

/-- The cell at each column of each row. -/
abbrev Grid := Nat → Nat → Cell

namespace Grid

/-- A grid without anything on it. -/
def blank : Grid := fun _ _ => {}

/-- Put cells side by side into a row, from a column on. -/
def write
    (grid : Grid)
    (column row : Nat)
    (cells : List Cell) : Grid :=
  fun otherColumn otherRow =>
    if otherRow = row ∧ column ≤ otherColumn then
      (cells[otherColumn - column]?).getD (grid otherColumn otherRow)
    else grid otherColumn otherRow

/-- Fill a whole row: some cells from the left, and blanks after them. -/
def setLine
    (grid : Grid)
    (row : Nat)
    (cells : List Cell) : Grid :=
  fun otherColumn otherRow =>
    if otherRow = row then (cells[otherColumn]?).getD {} else grid otherColumn otherRow

end Grid

/-! ## The screen -/

/-- What a screen is in the middle of. -/
inductive ScreenMode
  /-- Between control sequences. -/
  | ground
  /-- After an escape character. -/
  | escape
  /-- In a control sequence, with the numbers read so far. -/
  | control (asked : Bool) (earlier : List Nat) (latest : Nat)
deriving DecidableEq, Repr

/-- The screen of a terminal. -/
structure Screen where
  size : Size
  grid : Grid
  /-- The place of the cursor, which may be behind the last column. -/
  column : Nat
  row : Nat
  style : Style := {}
  mode : ScreenMode := .ground

/-- Whether a character is shown in a cell, and does not control the terminal. -/
def takesCell (character : Char) : Bool :=
  let code := character.toNat
  32 ≤ code && code ≠ 127 && !(128 ≤ code && code < 160)

namespace Screen

/-- Go to the first column of the next row, where there may be one only after scrolling. -/
def nextRow (screen : Screen) : Screen :=
  if screen.row + 1 < screen.size.rows.toNat then
    { screen with column := 0, row := screen.row + 1 }
  else
    { screen with
      column := 0
      grid := fun column row =>
        if row + 1 < screen.size.rows.toNat then screen.grid column (row + 1) else {} }

/-- Fill the cell under the cursor. -/
def put
    (screen : Screen)
    (character : Char) : Screen :=
  let ready := if screen.column < screen.size.columns.toNat then screen else screen.nextRow
  { ready with
    grid := ready.grid.write ready.column ready.row [⟨character, ready.style⟩]
    column := ready.column + 1 }

/-- Move the cursor, as far as the screen reaches. -/
def moveTo
    (screen : Screen)
    (column row : Nat) : Screen :=
  { screen with
    column := min column (screen.size.columns.toNat - 1)
    row := min row (screen.size.rows.toNat - 1) }

/-- Choose a style by its number. -/
def choose (style : Style) : List Nat → Style
  | [0] => {}
  | [1] => { style with bold := true }
  | [2] => { style with dim := true }
  | [38, 5, index] => { style with color := some (.indexed index) }
  | [38, 2, red, green, blue] => { style with color := some (.rgb red green blue) }
  | [39] => { style with color := none }
  | _ => style

/-- Do what a control sequence with these numbers and this letter asks for. -/
def perform
    (screen : Screen)
    (numbers : List Nat)
    (letter : Char) : Screen :=
  match letter, numbers with
  | 'H', [row, column] => screen.moveTo (column - 1) (row - 1)
  | 'J', [2] => { screen with grid := .blank }
  | 'K', [2] => { screen with grid := screen.grid.setLine screen.row [] }
  | 'm', numbers => { screen with style := choose screen.style numbers }
  | _, _ => screen

/-- Take one character. -/
def take
    (screen : Screen)
    (character : Char) : Screen :=
  match screen.mode with
  | .ground =>
      if character = '\x1b' then { screen with mode := .escape }
      else if takesCell character then screen.put character
      else screen
  | .escape =>
      if character = '[' then { screen with mode := .control false [] 0 }
      else { screen with mode := .ground }
  | .control asked earlier latest =>
      if character.isDigit then
        { screen with mode := .control asked earlier (10 * latest + (character.toNat - 48)) }
      else if character = ';' then
        { screen with mode := .control asked (earlier ++ [latest]) 0 }
      else if character = '?' then { screen with mode := .control true earlier latest }
      else if asked then { screen with mode := .ground }
      else { screen with mode := .ground }.perform (earlier ++ [latest]) character

/-- Take some characters, one after the other. -/
def receive
    (screen : Screen)
    (text : List Char) : Screen :=
  text.foldl take screen

/-- Take the characters of some commands. -/
def told
    (screen : Screen)
    (commands : List Command) : Screen :=
  screen.receive (commands.flatMap Command.characters)

/-- Take another size.  What is shown then, and where the cursor is, is up to the terminal. -/
def resize
    (arrange : Screen → Size → Grid × Nat × Nat)
    (screen : Screen)
    (size : Size) : Screen :=
  let (grid, column, row) := arrange screen size
  { screen with size := size, grid := grid, column := column, row := row }

/-- A screen between control sequences. -/
def ready
    (size : Size)
    (grid : Grid)
    (column row : Nat)
    (style : Style) : Screen :=
  ⟨size, grid, column, row, style, .ground⟩

/-- A screen in a control sequence, with the numbers read so far. -/
def reading
    (screen : Screen)
    (asked : Bool)
    (earlier : List Nat)
    (latest : Nat) : Screen :=
  { screen with mode := .control asked earlier latest }

/-! ## Control sequences -/

theorem receive_append
    (screen : Screen)
    (before after : List Char) :
    screen.receive (before ++ after) = (screen.receive before).receive after :=
  List.foldl_append

theorem receive_digits
    (screen : Screen)
    (asked : Bool)
    (earlier : List Nat)
    (latest : Nat)
    {digits : List Char}
    (allDigits : ∀ digit ∈ digits, digit.isDigit) :
    (screen.reading asked earlier latest).receive digits =
      screen.reading asked earlier (Nat.ofDigitChars 10 digits latest) := by
  induction digits generalizing latest with
  | nil => rfl
  | cons digit rest ih =>
      have first : (screen.reading asked earlier latest).take digit =
          screen.reading asked earlier (10 * latest + (digit.toNat - 48)) := by
        rw [take]
        exact if_pos (allDigits digit List.mem_cons_self)
      rw [receive, List.foldl_cons, first, Nat.ofDigitChars_cons]
      exact ih _ fun other member => allDigits other (List.mem_cons_of_mem digit member)

/-- The digits of a number are read as that number. -/
theorem receive_decimal
    (screen : Screen)
    (asked : Bool)
    (earlier : List Nat)
    (number : Nat) :
    (screen.reading asked earlier 0).receive (decimal number) =
      screen.reading asked earlier number := by
  have allDigits : ∀ digit ∈ decimal number, digit.isDigit := fun digit member =>
    Nat.isDigit_of_mem_toDigits (by decide) (by decide) member
  rw [receive_digits screen asked earlier 0 allDigits, decimal, Nat.ofDigitChars_ten_toDigits]

theorem receive_semicolon
    (screen : Screen)
    (earlier : List Nat)
    (latest : Nat)
    (rest : List Char) :
    (screen.reading false earlier latest).receive (';' :: rest) =
      (screen.reading false (earlier ++ [latest]) 0).receive rest := rfl

variable (size : Size) (grid : Grid) (column row : Nat) (style : Style)

theorem receive_introducer :
    (ready size grid column row style).receive introducer =
      (ready size grid column row style).reading false [] 0 := rfl

/-! ## What commands do -/

theorem told_append
    (screen : Screen)
    (before after : List Command) :
    screen.told (before ++ after) = (screen.told before).told after := by
  rw [told, List.flatMap_append, receive_append]
  rfl

theorem told_cons
    (screen : Screen)
    (command : Command)
    (rest : List Command) :
    screen.told (command :: rest) = (screen.told [command]).told rest :=
  told_append screen [command] rest

theorem told_eraseScreen :
    (ready size grid column row style).told [.eraseScreen] =
      ready size .blank column row style := rfl

theorem told_eraseLine :
    (ready size grid column row style).told [.eraseLine] =
      ready size (grid.setLine row []) column row style := rfl

theorem told_bold :
    (ready size grid column row style).told [.bold] =
      ready size grid column row { style with bold := true } := rfl

theorem told_dim :
    (ready size grid column row style).told [.dim] =
      ready size grid column row { style with dim := true } := rfl

theorem told_plain :
    (ready size grid column row style).told [.plain] = ready size grid column row {} := rfl

theorem told_defaultForeground :
    (ready size grid column row style).told [.defaultForeground] =
      ready size grid column row { style with color := none } := rfl

theorem told_foreground
    (color : MarkerColor) :
    (ready size grid column row style).told [.foreground color] =
      ready size grid column row { style with color := some (.ofMarker color) } := by
  cases color with
  | named color => cases color <;> rfl
  | rgb red green blue =>
      have opening :
          ((ready size grid column row style).reading false [] 0).receive "38;2;".toList =
            (ready size grid column row style).reading false [38, 2] 0 := rfl
      rw [told, List.flatMap_singleton]
      change (ready size grid column row style).receive
          (introducer ++ ("38;2;".toList ++ decimal red.toNat ++ ';' :: decimal green.toNat ++
            ';' :: decimal blue.toNat) ++ ['m']) = _
      rw [receive_append, receive_append, receive_introducer, receive_append, receive_append,
        receive_append, opening]
      rw [receive_decimal, receive_semicolon, receive_decimal, receive_semicolon, receive_decimal]
      rfl

/-- A number below another one can be counted from one. -/
theorem toNat_add_one
    {number bound : UInt16}
    (below : number.toNat < bound.toNat) :
    (number + 1).toNat = number.toNat + 1 := by
  have representable := bound.toNat_lt
  rw [UInt16.toNat_add]
  exact Nat.mod_eq_of_lt (by rw [UInt16.toNat_one]; omega)

/-- The cursor moves to any place on the screen. -/
theorem told_moveTo
    {toColumn toRow : UInt16}
    (columnInside : toColumn.toNat < size.columns.toNat)
    (rowInside : toRow.toNat < size.rows.toNat) :
    (ready size grid column row style).told [.moveTo toColumn toRow] =
      ready size grid toColumn.toNat toRow.toNat style := by
  have columnSent := toNat_add_one columnInside
  have rowSent := toNat_add_one rowInside
  have columnKept : min toColumn.toNat (size.columns.toNat - 1) = toColumn.toNat := by omega
  have rowKept : min toRow.toNat (size.rows.toNat - 1) = toRow.toNat := by omega
  rw [told, List.flatMap_singleton]
  change (ready size grid column row style).receive
      (introducer ++ decimal (toRow + 1).toNat ++ ';' :: decimal (toColumn + 1).toNat ++ ['H']) = _
  rw [columnSent, rowSent, receive_append, receive_append, receive_append, receive_introducer, receive_decimal,
    receive_semicolon, receive_decimal]
  change (ready size grid column row style).moveTo (toColumn.toNat + 1 - 1) (toRow.toNat + 1 - 1)
    = _
  rw [Nat.add_sub_cancel, Nat.add_sub_cancel, moveTo, ready, columnKept, rowKept]
  rfl

end Screen

end Barrage.Terminal
