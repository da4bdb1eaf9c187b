import Barrage.Proofs.Player.Drawing
import Barrage.Proofs.Player.Following

/-!
# Watching a session

A session is watched on the screen of its terminal.  The screen takes what the
player sends, and now and then another size.  A `Moment` is one thing that the
player does: a tick, or the handling of an event.  All of a session's output
is that of its start and of its moments, and the player waits for input only
between them.

`Player.Shown` is the invariant that the moments keep: the player follows
playback, and its picture is on the screen.  It needs room in the terminal for
the canvas, the hints and the status, after each moment.
-/

namespace Barrage

open Barrage.Terminal

/-! ## Moments -/

/-- One thing that the player does. -/
structure Moment where
  /-- The player afterwards. -/
  player : Player
  /-- Whether the terminal has taken another size. -/
  resized : Bool
  /-- What is sent. -/
  sent : List Command

/-- Whether an event is a change of the size of the terminal. -/
def PlayerEvent.isResize : PlayerEvent → Bool
  | .key _ => false
  | .resized _ => true

/-- The moments in which some events are handled, up to one that stops the player. -/
def Player.moments (player : Player) : List PlayerEvent → List Moment
  | [] => []
  | event :: rest =>
      match player.handle event with
      | .quit => []
      | .proceed next output => ⟨next, event.isResize, output⟩ :: next.moments rest

namespace Session

/-- The moments of a turn. -/
def turnMoments
    (session : Session)
    (events : List PlayerEvent) : List Moment :=
  if session.outcome.isSome then []
  else if session.player.paused then session.player.moments events
  else
    let ticked := session.player.tick
    let later := if ticked.finished then [] else ticked.player.moments events
    ⟨ticked.player, false, ticked.output⟩ :: later

/-- The moments of some turns. -/
def moments (session : Session) : List (List PlayerEvent) → List Moment
  | [] => []
  | events :: rest => session.turnMoments events ++ (session.turn events).moments rest

end Session

/-- The screen after a moment. -/
def Terminal.Screen.after
    (arrange : Screen → Size → Grid × Nat × Nat)
    (screen : Screen)
    (moment : Moment) : Screen :=
  (if moment.resized then screen.resize arrange moment.player.terminal else screen).told
    moment.sent

/-! ## What moments send -/

theorem Player.output_attend
    (player : Player)
    (events : List PlayerEvent) :
    (player.attend events).output = (player.moments events).flatMap (·.sent) := by
  induction events generalizing player with
  | nil => rfl
  | cons event rest ih =>
      rw [attend, moments]
      cases player.handle event with
      | quit => rfl
      | proceed next output =>
          change output ++ (next.attend rest).output = _
          rw [ih next]
          rfl

namespace Session

theorem output_send
    (session : Session)
    (commands : List Command) :
    (session.send commands).output.toList = session.output.toList ++ commands := by
  rw [send, Array.toList_appendList]

theorem output_attend
    (session : Session)
    (events : List PlayerEvent) :
    (session.attend events).output.toList =
      session.output.toList ++ (session.player.moments events).flatMap (·.sent) := by
  rw [attend, output_send, Player.output_attend]

theorem output_turn
    (session : Session)
    (events : List PlayerEvent) :
    (session.turn events).output.toList =
      session.output.toList ++ (session.turnMoments events).flatMap (·.sent) := by
  rw [turn, turnMoments]
  by_cases ended : session.outcome.isSome
  · rw [if_pos ended, if_pos ended, List.flatMap_nil, List.append_nil]
  · rw [if_neg ended, if_neg ended]
    by_cases paused : session.player.paused
    · rw [if_pos paused, if_pos paused, output_attend]
    · rw [if_neg paused, if_neg paused, List.flatMap_cons]
      by_cases finished : session.player.tick.finished
      · simp only [if_pos finished, output_send, List.flatMap_nil, List.append_nil]
      · simp only [if_neg finished, output_attend, output_send, List.append_assoc]
        rfl

/-- Turns add to the output what their moments send. -/
theorem output_run
    (session : Session)
    (turns : List (List PlayerEvent)) :
    (session.run turns).output.toList =
      session.output.toList ++ (session.moments turns).flatMap (·.sent) := by
  induction turns generalizing session with
  | nil => exact (List.append_nil _).symm
  | cons events rest ih =>
      rw [run, List.foldl_cons, ← run, ih, output_turn, moments, List.flatMap_append,
        List.append_assoc]

end Session

/-! ## The picture stays on the screen -/

namespace Player

/-- The player follows playback, and the screen shows its picture. -/
structure Shown
    (schedule : Schedule)
    (settings : Settings)
    (screen : Screen)
    (player : Player) : Prop where
  follows : player.Follows schedule settings
  idle : screen.Idle player.terminal player.picture

variable {schedule : Schedule} {settings : Settings} {screen : Screen} {player : Player}

/-- Whoever drew the frame, the status that is drawn last is the one that is seen. -/
theorem picture_eq_setLine
    {next : Player}
    (follows : next.Follows schedule settings)
    (sameSettings : next.settings = player.settings) :
    next.picture =
      (painted next.settings.canvas next.canvas player.frame).setLine
        (next.settings.canvas.rows.toNat + 1) next.statusLine := by
  have outside : next.canvas.rows.toNat < next.settings.canvas.rows.toNat + 1 := by
    rw [follows.canvas_rows]
    exact Nat.lt_succ_self _
  rw [picture, frame, frame, ← sameSettings, ← painted_setLine _ _ _ _ (.inr outside),
    Grid.setLine_setLine]

/-- From one picture to the next only the changes of the canvas and the status are drawn. -/
theorem idle_drawNext
    {next : Player}
    (markerVisible : takesCell settings.canvas.marker)
    (follows : player.Follows schedule settings)
    (followsNext : next.Follows schedule settings)
    (sameTerminal : next.terminal = player.terminal)
    (fits : next.Fits)
    (idle : screen.Idle player.terminal player.picture) :
    (screen.told
        (drawChanges settings.canvas (player.canvas.changes next.canvas) ++ next.drawStatus)).Idle
      next.terminal next.picture := by
  have sameSettings : next.settings = player.settings := by
    rw [followsNext.settings_eq, follows.settings_eq]
  have sameColumns : player.canvas.columns = next.canvas.columns := by
    rw [follows.canvas_columns, followsNext.canvas_columns, sameSettings]
  have sameRows : player.canvas.rows = next.canvas.rows := by
    rw [follows.canvas_rows, followsNext.canvas_rows, sameSettings]
  have narrow : next.canvas.columns.toNat ≤ next.terminal.columns.toNat := by
    rw [followsNext.canvas_columns]
    exact fits.canvas.columns
  have tall : next.canvas.rows.toNat + 1 ≤ next.terminal.rows.toNat := by
    rw [followsNext.canvas_rows]
    exact Nat.le_of_succ_le fits.canvas.rows
  rw [picture, follows.settings_eq, ← sameTerminal] at idle
  have changed := idle_drawCanvasChanges markerVisible sameColumns sameRows narrow tall idle
  have status := idle_drawStatus fits changed
  rw [picture_eq_setLine followsNext sameSettings, Screen.told_append]
  rw [followsNext.settings_eq] at status ⊢
  exact status

/-- With the same canvas only the status is drawn. -/
theorem idle_drawStatus_next
    {next : Player}
    (followsNext : next.Follows schedule settings)
    (sameSettings : next.settings = player.settings)
    (sameCanvas : next.canvas = player.canvas)
    (sameTerminal : next.terminal = player.terminal)
    (fits : next.Fits)
    (idle : screen.Idle player.terminal player.picture) :
    (screen.told next.drawStatus).Idle next.terminal next.picture := by
  rw [picture, ← sameSettings, ← sameCanvas, ← sameTerminal] at idle
  rw [picture_eq_setLine followsNext sameSettings]
  exact idle_drawStatus fits idle

theorem output_tick
    (player : Player) :
    player.tick.output =
      drawChanges player.settings.canvas (player.canvas.changes player.tick.player.canvas) ++
        player.tick.player.drawStatus := rfl

theorem terminal_tick
    (player : Player) :
    player.tick.player.terminal = player.terminal := rfl

namespace Shown

theorem tick
    (markerVisible : takesCell settings.canvas.marker)
    (shown : player.Shown schedule settings screen)
    (fits : player.tick.player.Fits) :
    player.tick.player.Shown schedule settings (screen.told player.tick.output) := by
  have follows := shown.follows.tick
  refine ⟨follows, ?_⟩
  rw [output_tick, shown.follows.settings_eq]
  exact
    idle_drawNext markerVisible shown.follows follows player.terminal_tick fits shown.idle

theorem handle
    (markerVisible : takesCell settings.canvas.marker)
    (arrange : Screen → Size → Grid × Nat × Nat)
    (shown : player.Shown schedule settings screen)
    {event : PlayerEvent}
    {next : Player}
    {output : List Command}
    (handled : player.handle event = .proceed next output)
    (fits : next.Fits) :
    next.Shown schedule settings (screen.after arrange ⟨next, event.isResize, output⟩) := by
  have follows := shown.follows.handle handled
  refine ⟨follows, ?_⟩
  cases event with
  | key key =>
      rw [Player.handle] at handled
      split at handled
      next =>
        cases handled
        exact shown.idle
      next =>
        cases handled
        refine idle_drawStatus_next follows ?_ ?_ ?_ fits shown.idle
        · rfl
        · rfl
        · rfl
      next => cases handled
  | resized size =>
      have visible : takesCell next.settings.canvas.marker := by
        rwa [follows.settings_eq]
      have columns := follows.canvas_columns
      have rows := follows.canvas_rows
      cases handled
      have resized : (screen.resize arrange size).Idle size (arrange screen size).1 := by
        obtain ⟨column, row, showing⟩ := shown.idle
        refine ⟨(arrange screen size).2.1, (arrange screen size).2.2, ?_⟩
        rw [showing]
        rfl
      have drawn := idle_drawAll visible columns rows fits resized.eraseScreen
      rwa [← Screen.told_cons] at drawn

/-- What one moment after the other keeps, the events of a turn keep. -/
theorem attend
    (markerVisible : takesCell settings.canvas.marker)
    (arrange : Screen → Size → Grid × Nat × Nat)
    (shown : player.Shown schedule settings screen)
    (events : List PlayerEvent)
    (fits : ∀ moment ∈ player.moments events, moment.player.Fits) :
    (player.attend events).player.Shown schedule settings
      ((player.moments events).foldl (Screen.after arrange) screen) := by
  induction events generalizing player screen with
  | nil => exact shown
  | cons event rest ih =>
      rw [Player.attend]
      rw [Player.moments] at fits ⊢
      cases handled : player.handle event with
      | quit => exact shown
      | proceed next output =>
          rw [handled] at fits
          have first := shown.handle markerVisible arrange handled (fits _ List.mem_cons_self)
          exact ih first fun moment member => fits moment (List.mem_cons_of_mem _ member)

theorem turn
    {session : Session}
    (markerVisible : takesCell settings.canvas.marker)
    (arrange : Screen → Size → Grid × Nat × Nat)
    (shown : session.player.Shown schedule settings screen)
    (events : List PlayerEvent)
    (fits : ∀ moment ∈ session.turnMoments events, moment.player.Fits) :
    (session.turn events).player.Shown schedule settings
      ((session.turnMoments events).foldl (Screen.after arrange) screen) := by
  rw [Session.turn]
  rw [Session.turnMoments] at fits ⊢
  by_cases ended : session.outcome.isSome
  · rw [if_pos ended, if_pos ended]
    exact shown
  · rw [if_neg ended] at fits ⊢
    rw [if_neg ended]
    by_cases paused : session.player.paused
    · rw [if_pos paused] at fits ⊢
      rw [if_pos paused]
      exact shown.attend markerVisible arrange events fits
    · rw [if_neg paused] at fits ⊢
      rw [if_neg paused]
      have ticked := shown.tick markerVisible (fits _ List.mem_cons_self)
      by_cases finished : session.player.tick.finished
      · simp only [if_pos finished]
        exact ticked
      · simp only [if_neg finished] at fits ⊢
        exact ticked.attend markerVisible arrange events fun moment member =>
          fits moment (List.mem_cons_of_mem _ member)

theorem run
    {session : Session}
    (markerVisible : takesCell settings.canvas.marker)
    (arrange : Screen → Size → Grid × Nat × Nat)
    (shown : session.player.Shown schedule settings screen)
    (turns : List (List PlayerEvent))
    (fits : ∀ moment ∈ session.moments turns, moment.player.Fits) :
    (session.run turns).player.Shown schedule settings
      ((session.moments turns).foldl (Screen.after arrange) screen) := by
  induction turns generalizing session screen with
  | nil => exact shown
  | cons events rest ih =>
      rw [Session.moments] at fits ⊢
      have first := shown.turn markerVisible arrange events fun moment member =>
        fits moment (List.mem_append_left _ member)
      have later := ih first fun moment member => fits moment (List.mem_append_right _ member)
      rwa [← List.foldl_append] at later

end Shown

/-- To draw everything is to send the hints, the projectiles in flight and the status. -/
theorem Follows.drawAll_eq
    (follows : player.Follows schedule settings) :
    let size := settings.canvas
    let marks :=
      Canvas.rasterize player.playback.entities player.playback.viewport size.columns size.rows
    player.drawAll = hintsRedraw ++ canvasRedraw size marks ++ player.statusRedraw player.paused := by
  intro size marks
  have sameCanvas : player.canvas = marks := follows.canvas_eq
  rw [drawAll, drawHints_eq, drawCanvas_eq follows.canvas_columns follows.canvas_rows,
    drawStatus_eq, follows.settings_eq, sameCanvas]

end Player

/-! ## Sessions -/

namespace Session

/-- The sum of the rows is right where 16 bits are enough for it. -/
theorem exists_neededSize?
    {canvas : CanvasSettings}
    (small : canvas.rows.toNat + 2 < UInt16.size) :
    ∃ needed,
      neededSize? canvas = some needed ∧
        needed.columns = canvas.columns ∧ needed.rows.toNat = canvas.rows.toNat + 2 := by
  refine ⟨_, if_pos small, rfl, ?_⟩
  change (canvas.rows + 2).toNat = _
  rw [UInt16.toNat_add]
  exact Nat.mod_eq_of_lt small

theorem start_of_fitsIn
    (schedule : Schedule)
    {settings : Settings}
    {terminal : Size}
    (room : settings.canvas.FitsIn terminal) :
    start schedule settings terminal =
      .ok ⟨.start schedule settings terminal,
        (opening ++ (Player.start schedule settings terminal).drawAll).toArray, none⟩ := by
  have small := Nat.lt_of_le_of_lt room.rows terminal.rows.toNat_lt
  obtain ⟨needed, sized, columns, rows⟩ := exists_neededSize? small
  have enough : ¬ (terminal.columns < needed.columns ∨ terminal.rows < needed.rows) := by
    rw [not_or, UInt16.not_lt, UInt16.not_lt, UInt16.le_iff_toNat_le, UInt16.le_iff_toNat_le,
      columns, rows]
    exact ⟨room.columns, room.rows⟩
  rw [start, sized]
  exact if_neg enough

end Session

end Barrage
