import Barrage.Player.Basic
import Barrage.Terminal.Sequence

/-!
# Sessions

A session is a run of the player from its start in a terminal to its end.  It
goes on in turns.  A turn plays a tick, unless the player is paused, and then
handles the events that arrive before the next tick is due.

A session starts only in a terminal with room for the canvas, the hints and
the status.  It ends when playback is over or the player is told to stop.

The rows that are needed are a sum that 16 bits may be too few for.  Then
nothing is told of the room that is lacking: the program breaks off.
-/

namespace Barrage

open Barrage.Terminal

/-- How a session ended. -/
inductive Outcome
  /-- Playback came to its end. -/
  | finished (ticks : Nat)
  /-- The player was told to stop. -/
  | interrupted (ticks : Nat)
deriving DecidableEq, Repr

namespace Outcome

/-- What is said about the end of playing a file. -/
def message
    (outcome : Outcome)
    (path : String) : String :=
  match outcome with
  | finished ticks => s!"Finished {path} after {ticks} ticks"
  | interrupted ticks => s!"Stopped {path} after {ticks} ticks"

end Outcome

/-- A terminal that lacks room, with the size that is needed. -/
structure TooSmall where
  needed : Size
  actual : Size
deriving DecidableEq, Repr

/-- The words for a terminal that lacks room. -/
def TooSmall.message (fault : TooSmall) : String :=
  s!"Terminal too small: need {fault.needed.columns}x{fault.needed.rows}, " ++
    s!"have {fault.actual.columns}x{fault.actual.rows}"

/-- Why a session does not start. -/
inductive StartFault
  | tooSmall (fault : TooSmall)
  /-- The number of rows that are needed has more than 16 bits. -/
  | overflow
deriving DecidableEq, Repr

/-- A run of the player, with everything sent so far, and how it ended if it has. -/
structure Session where
  player : Player
  output : Array Command
  outcome : Option Outcome

namespace Session

/-- What is sent before anything is drawn. -/
def opening : List Command :=
  [.enterAlternateScreen, .hideCursor, .eraseScreen]

/-- What is sent at the end. -/
def closing : List Command :=
  [.showCursor, .leaveAlternateScreen]

/-- The size that a terminal needs: two more rows than the canvas, if 16 bits can hold them. -/
def neededSize? (canvas : CanvasSettings) : Option Size :=
  if canvas.rows.toNat + 2 < UInt16.size then some ⟨canvas.columns, canvas.rows + 2⟩ else none

/--
Start playing a schedule in a terminal.  Both the test for the rows and the
words about a terminal that lacks columns ask for the rows that are needed, so
that no start gets around an overflow.
-/
def start
    (schedule : Schedule)
    (settings : Settings)
    (terminal : Size) : Except StartFault Session :=
  match neededSize? settings.canvas with
  | none => .error .overflow
  | some needed =>
      if terminal.columns < needed.columns ∨ terminal.rows < needed.rows then
        .error (.tooSmall ⟨needed, terminal⟩)
      else
        let player := Player.start schedule settings terminal
        .ok ⟨player, (opening ++ player.drawAll).toArray, none⟩

/-- Add to what has been sent. -/
def send
    (session : Session)
    (commands : List Command) : Session :=
  { session with output := session.output ++ commands }

/-- Handle the events of a turn. -/
def attend
    (session : Session)
    (events : List PlayerEvent) : Session :=
  let attended := session.player.attend events
  let outcome := if attended.stopped then some (.interrupted attended.player.ticks) else none
  { session with player := attended.player, outcome := outcome }.send attended.output

/-- Take a turn.  A session that has ended stays as it is. -/
def turn
    (session : Session)
    (events : List PlayerEvent) : Session :=
  if session.outcome.isSome then session
  else if session.player.paused then session.attend events
  else
    let ticked := session.player.tick
    let next := { session with player := ticked.player }.send ticked.output
    if ticked.finished then { next with outcome := some (.finished ticked.player.ticks) }
    else next.attend events

/--
Divide what the terminal tells into the events of turns.  After a report the
player waits for more events only if there is time left before the next tick.
It is not `patient` if the interval between ticks is zero: then there is none.
-/
def turnEvents (patient : Bool) : List Signal → List (List PlayerEvent)
  | [] => [[]]
  | .key key :: rest =>
      match turnEvents patient rest with
      | [] => [[.key key]]
      | events :: later => (.key key :: events) :: later
  | .report :: rest => if patient then turnEvents patient rest else [] :: turnEvents patient rest
  | .other :: rest => turnEvents patient rest

/-- Keys alone are the events of one turn. -/
@[simp]
theorem turnEvents_keys
    (patient : Bool)
    (keys : List Key) :
    turnEvents patient (keys.map .key) = [keys.map .key] := by
  induction keys with
  | nil => rfl
  | cons key rest hypothesis => simp [turnEvents, hypothesis]

/-- Take one turn after the other, each with its events. -/
def run
    (session : Session)
    (turns : List (List PlayerEvent)) : Session :=
  turns.foldl turn session

/-- Take turns without events until the session ends, at most `limit` of them. -/
def settle (session : Session) : Nat → Session
  | 0 => session
  | limit + 1 =>
      if session.outcome.isSome then session else (session.turn []).settle limit

/-- Everything that is sent, with the closing commands once the session has ended. -/
def transcript (session : Session) : List Command :=
  session.output.toList ++ (if session.outcome.isSome then closing else [])

end Session

end Barrage
