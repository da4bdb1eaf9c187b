import Barrage.Player.Session
import Barrage.Proofs.Canvas
import Barrage.Proofs.Playback.Run

/-!
# The player follows playback

`Player.Follows` is the invariant of the player apart from what it draws.
However the player got to where it is, its playback is that of the schedule
after as many ticks as it counts, its canvas is a drawing of the projectiles
in flight, and its number of projectiles is theirs.

Keys and new sizes of the terminal do not touch any of this.  A tick does, and
keeps it.
-/

namespace Barrage.Player

open Barrage.Terminal

variable {schedule : Schedule} {settings : Settings} {player : Player}

/-- The player has played a schedule with these settings, and kept its records right. -/
structure Follows
    (schedule : Schedule)
    (settings : Settings)
    (player : Player) : Prop where
  settings_eq : player.settings = settings
  playback_eq :
    player.playback = (Playback.start schedule settings.viewport).afterSteps player.ticks
  canvas_eq :
    player.canvas =
      Canvas.rasterize player.playback.entities player.playback.viewport settings.canvas.columns
        settings.canvas.rows
  live_eq : player.live = player.playback.liveCount

namespace Follows

theorem canvas_columns
    (follows : player.Follows schedule settings) :
    player.canvas.columns = player.settings.canvas.columns := by
  rw [follows.canvas_eq, follows.settings_eq]
  exact (Canvas.size_rasterize _ _ _ _).1

theorem canvas_rows
    (follows : player.Follows schedule settings) :
    player.canvas.rows = player.settings.canvas.rows := by
  rw [follows.canvas_eq, follows.settings_eq]
  exact (Canvas.size_rasterize _ _ _ _).2

theorem start
    (schedule : Schedule)
    (settings : Settings)
    (terminal : Size) :
    (Player.start schedule settings terminal).Follows schedule settings where
  settings_eq := rfl
  playback_eq := rfl
  canvas_eq := (Canvas.rasterize_nil _ _ _).symm
  live_eq := rfl

theorem tick
    (follows : player.Follows schedule settings) :
    player.tick.player.Follows schedule settings := by
  have reached := Playback.reached_afterSteps schedule settings.viewport player.ticks
  rw [← follows.playback_eq] at reached
  have shown := reached.entities_step
  constructor
  case settings_eq => exact follows.settings_eq
  case playback_eq =>
    change player.playback.step.playback = _
    rw [follows.playback_eq, ← Playback.afterSteps_succ]
    rfl
  case canvas_eq =>
    change Canvas.rasterize player.playback.step.tick.entities _ player.settings.canvas.columns
      player.settings.canvas.rows = _
    rw [shown, follows.settings_eq]
    rfl
  case live_eq =>
    change player.playback.step.tick.entities.length = _
    rw [shown, Playback.length_entities]
    rfl

/-- An event changes nothing but the pause and the size of the terminal. -/
theorem handle
    (follows : player.Follows schedule settings)
    {event : PlayerEvent}
    {next : Player}
    {output : List Command}
    (handled : player.handle event = .proceed next output) :
    next.Follows schedule settings := by
  cases event with
  | key key =>
      rw [Player.handle] at handled
      split at handled
      next =>
        cases handled
        exact follows
      next =>
        cases handled
        exact { follows with }
      next => cases handled
  | resized size =>
      cases handled
      exact { follows with }

end Follows

end Barrage.Player
