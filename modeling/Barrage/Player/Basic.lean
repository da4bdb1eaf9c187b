import Barrage.Canvas.Basic
import Barrage.Playback.Basic
import Barrage.Terminal.Command
import Barrage.Terminal.Key

/-!
# The player

The player shows playback in a terminal: a line of key hints, below it the
canvas, and below the canvas a line of status.  It draws the whole picture
once and then only what has changed.

Every operation answers with the player after it and with the commands that
are sent to the terminal.  Between two ticks the player handles events: keys,
and changes of the size of the terminal.
-/

namespace Barrage

open Barrage.Terminal

/-! ## The player and its events -/

/-- Playback in a terminal. -/
structure Player where
  playback : Playback
  settings : Settings
  /-- The canvas that the terminal shows. -/
  canvas : Canvas
  /-- The number of ticks played. -/
  ticks : Nat
  /-- The number of projectiles after the last tick. -/
  live : Nat
  paused : Bool
  /-- The present size of the terminal. -/
  terminal : Size

/-- Something that happens to the player from outside. -/
inductive PlayerEvent
  | key (key : Key)
  /-- The terminal has another size now. -/
  | resized (size : Size)
deriving DecidableEq, Repr

namespace Player

/-- The player of a schedule before the first tick. -/
def start
    (schedule : Schedule)
    (settings : Settings)
    (terminal : Size) : Player where
  playback := .start schedule settings.viewport
  settings := settings
  canvas := .blank settings.canvas.columns settings.canvas.rows
  ticks := 0
  live := 0
  paused := false
  terminal := terminal

/-! ## Drawing -/

/-- The row of the terminal that holds a row of the canvas. -/
def canvasRow (row : UInt16) : UInt16 :=
  row + 1

/-- The row of the status. -/
def statusRow (player : Player) : UInt16 :=
  canvasRow player.settings.canvas.rows

/-- A hint: bright keys and what they do. -/
def hint (keys effect : String) : List Command :=
  [.bold] ++ Command.printAll keys.toList ++ [.plain, .dim] ++
    Command.printAll effect.toList ++ [.plain]

/-- Draw the line of hints. -/
def drawHints : List Command :=
  [.moveTo 0 0, .eraseLine, .print ' '] ++ hint "[Space]" " pause" ++
    Command.printAll [' ', ' '] ++ hint "[q][Esc]" " quit"

/-- Draw a cell at the cursor. -/
def drawCell
    (settings : CanvasSettings)
    (marked : Bool) : List Command :=
  if marked then [.foreground settings.markerColor, .print settings.marker, .defaultForeground]
  else [.print ' ']

/-- Draw a row of the canvas. -/
def drawRow
    (settings : CanvasSettings)
    (row : Nat)
    (cells : List Bool) : List Command :=
  .moveTo 0 (canvasRow row.toUInt16) :: cells.flatMap (drawCell settings)

/-- Draw the whole canvas. -/
def drawCanvas (player : Player) : List Command :=
  player.canvas.cells.zipIdx.flatMap fun (cells, row) =>
    drawRow player.settings.canvas row cells

/-- Draw the cells that have changed. -/
def drawChanges
    (settings : CanvasSettings)
    (changes : List CellChange) : List Command :=
  changes.flatMap fun change =>
    .moveTo change.column (canvasRow change.row) :: drawCell settings change.marked

/-- The word for how far playback has come. -/
def phaseWord : Phase → String
  | .running => "running"
  | .draining => "draining"
  | .finished => "finished"

/-- The text of the status. -/
def statusText (player : Player) : String :=
  let playback := player.playback
  let pause := if player.paused then " [paused]" else ""
  s!" Tick {player.ticks} | Frame {playback.cursor}/{playback.lastFrame} | " ++
    s!"{player.live} live | {phaseWord playback.phase}{pause} "

/-- Draw the status, if the terminal has the row for it. -/
def drawStatus (player : Player) : List Command :=
  if player.terminal.rows ≤ player.statusRow then []
  else
    [.moveTo 0 player.statusRow, .eraseLine, .dim] ++
      Command.printAll player.statusText.toList ++ [.plain]

/-- Draw everything. -/
def drawAll (player : Player) : List Command :=
  drawHints ++ player.drawCanvas ++ player.drawStatus

/-! ## Ticks -/

/-- The player after a tick, with what is sent, and whether playback is over. -/
structure Ticked where
  player : Player
  output : List Command
  finished : Bool

/-- Play a tick and draw what it changes. -/
def tick (player : Player) : Ticked :=
  let stepped := player.playback.step
  let size := player.settings.canvas
  let canvas :=
    Canvas.rasterize stepped.tick.entities stepped.playback.viewport size.columns size.rows
  let next :=
    { player with
      playback := stepped.playback
      canvas := canvas
      ticks := player.ticks + 1
      live := stepped.tick.entities.length }
  { player := next
    output := drawChanges size (player.canvas.changes canvas) ++ next.drawStatus
    finished := stepped.tick.finished }

/-! ## Events -/

/-- What a key asks for. -/
inductive KeyAction
  | proceed
  | togglePause
  | quit
deriving DecidableEq, Repr

/-- What a key asks for: only keys that are pressed ask for anything. -/
def actionOf (key : Key) : KeyAction :=
  if key.pressed then
    match key.code with
    | .escape => .quit
    | .character 'q' => .quit
    | .character ' ' => .togglePause
    | .character 'c' => if key.control then .quit else .proceed
    | _ => .proceed
  else .proceed

/-- The player after an event. -/
inductive Reaction
  /-- The player goes on, and this is sent. -/
  | proceed (player : Player) (output : List Command)
  | quit

/-- Handle an event. -/
def handle
    (player : Player) : PlayerEvent → Reaction
  | .key key =>
      match actionOf key with
      | .proceed => .proceed player []
      | .togglePause =>
          let next := { player with paused := !player.paused }
          .proceed next next.drawStatus
      | .quit => .quit
  | .resized size =>
      let next := { player with terminal := size }
      .proceed next (.eraseScreen :: next.drawAll)

/-- The player after some events, with what is sent, and whether it was told to stop. -/
structure Attended where
  player : Player
  output : List Command
  stopped : Bool

/-- Handle events in order, up to one that stops the player. -/
def attend (player : Player) : List PlayerEvent → Attended
  | [] => ⟨player, [], false⟩
  | event :: rest =>
      match player.handle event with
      | .quit => ⟨player, [], true⟩
      | .proceed next output =>
          let later := next.attend rest
          { later with output := output ++ later.output }

end Player

end Barrage
