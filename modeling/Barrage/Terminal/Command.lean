import Barrage.Settings.Basic

/-!
# Terminal commands

What is sent to a terminal, one command for each thing that the terminal
does, and the characters that each command is sent as.  Columns and rows are
counted from zero here and from one in what is sent.
-/

namespace Barrage.Terminal

/-- The size of a terminal in character cells. -/
structure Size where
  columns : UInt16
  rows : UInt16
deriving DecidableEq, Repr

/-- What a terminal can be told. -/
inductive Command
  /-- Show a second screen in place of the first. -/
  | enterAlternateScreen
  /-- Show the first screen again. -/
  | leaveAlternateScreen
  | hideCursor
  | showCursor
  /-- Blank the whole screen. -/
  | eraseScreen
  /-- Blank the line of the cursor. -/
  | eraseLine
  | moveTo (column row : UInt16)
  | bold
  | dim
  /-- Print without any style from now on. -/
  | plain
  /-- Print in a colour from now on. -/
  | foreground (color : MarkerColor)
  /-- Print in the usual colour from now on. -/
  | defaultForeground
  | print (character : Char)
deriving DecidableEq, Repr

/-- The number of a named colour in the palette of a terminal. -/
def paletteIndex : NamedColor → Nat
  | .red => 9
  | .yellow => 11
  | .cyan => 14
  | .magenta => 13
  | .white => 15

/-- A number in decimal digits. -/
def decimal (number : Nat) : List Char :=
  Nat.toDigits 10 number

/-- The opening of a control sequence. -/
def introducer : List Char := ['\x1b', '[']

/-- The parameters that select a colour. -/
def colorParameters : MarkerColor → List Char
  | .named color => "38;5;".toList ++ decimal (paletteIndex color)
  | .rgb red green blue =>
      "38;2;".toList ++ decimal red.toNat ++ ';' :: decimal green.toNat ++
        ';' :: decimal blue.toNat

namespace Command

/-- The characters that a command is sent as. -/
def characters : Command → List Char
  | enterAlternateScreen => introducer ++ "?1049h".toList
  | leaveAlternateScreen => introducer ++ "?1049l".toList
  | hideCursor => introducer ++ "?25l".toList
  | showCursor => introducer ++ "?25h".toList
  | eraseScreen => introducer ++ "2J".toList
  | eraseLine => introducer ++ "2K".toList
  | moveTo column row =>
      introducer ++ decimal (row + 1).toNat ++ ';' :: decimal (column + 1).toNat ++ ['H']
  | bold => introducer ++ "1m".toList
  | dim => introducer ++ "2m".toList
  | plain => introducer ++ "0m".toList
  | foreground color => introducer ++ colorParameters color ++ ['m']
  | defaultForeground => introducer ++ "39m".toList
  | print character => [character]

/-- The commands that print a text. -/
def printAll (text : List Char) : List Command :=
  text.map print

end Command

/-- The text that some commands are sent as. -/
def sent (commands : List Command) : String :=
  String.ofList (commands.flatMap Command.characters)

end Barrage.Terminal
