import Barrage.Proofs.Player.Moments
import Mathlib.Data.Nat.Digits.Defs

/-!
# The length of the lines

The size check asks for the columns of the canvas, not for those of the two
lines.  The hints always have the same length (`Player.length_hintLine`).  The
status is as long as its words and the digits of its four numbers
(`Player.length_statusLine`), so that 125 columns are enough for it as long as
the numbers have 64 bits.

A line that is not longer than a row of the terminal is written in this row
and nowhere else.  A longer one goes on in the next row, and from the last row
the terminal scrolls.
-/

namespace Barrage

open Barrage.Terminal

/-! ## Digits -/

/-- A number below a power of ten has no more digits than the power has zeros. -/
theorem Terminal.length_decimal_le_iff
    {number places : Nat}
    (somePlace : 0 < places) :
    (decimal number).length ≤ places ↔ number < 10 ^ places :=
  Nat.length_toDigits_le_iff (by decide) somePlace

theorem Terminal.length_toString
    (number : Nat) :
    (toString number).length = (decimal number).length := by
  rw [Nat.toString_eq_ofList_toDigits, String.length_ofList]
  rfl

namespace Player

/-! ## Lengths -/

theorem length_hintLine : hintLine.length = 29 := by
  decide

/-- The length of the status: that of its words and of the digits of its numbers. -/
def statusLength (player : Player) : Nat :=
  28 + (decimal player.ticks).length + (decimal player.playback.cursor).length +
    (decimal player.playback.lastFrame).length + (decimal player.live).length +
      (phaseWord player.playback.phase).length + if player.paused then 9 else 0

theorem length_statusWords
    (player : Player) :
    player.statusWords.length =
      27 + (decimal player.ticks).length + (decimal player.playback.cursor).length +
        (decimal player.playback.lastFrame).length + (decimal player.live).length +
          (phaseWord player.playback.phase).length := by
  have words (text : String) : toString text = text := rfl
  have tick : " Tick ".length = 6 := by decide
  have frame : " | Frame ".length = 9 := by decide
  have slash : "/".length = 1 := by decide
  have bar : " | ".length = 3 := by decide
  have live : " live | ".length = 8 := by decide
  rw [statusWords_eq]
  simp only [String.length_append, words, length_toString, tick, frame, slash, bar, live]
  omega

theorem length_statusLine
    (player : Player) :
    player.statusLine.length = player.statusLength := by
  have pause : (if player.paused then " [paused] " else " ").length =
      1 + if player.paused then 9 else 0 := by
    cases player.paused <;> decide
  rw [statusLine, length_styled, String.length_toList, String.length_append, length_statusWords,
    pause, statusLength]
  omega

theorem length_phaseWord_le
    (phase : Phase) :
    (phaseWord phase).length ≤ 8 := by
  cases phase <;> decide

/-- Numbers of 64 bits have at most twenty digits. -/
theorem length_decimal_le
    {number : Nat}
    (small : number < 2 ^ 64) :
    (decimal number).length ≤ 20 := by
  rw [length_decimal_le_iff (by decide)]
  exact Nat.lt_trans small (by decide)

theorem statusLength_le
    {player : Player}
    (ticks : player.ticks < 2 ^ 64)
    (cursor : player.playback.cursor < 2 ^ 64)
    (lastFrame : player.playback.lastFrame < 2 ^ 64)
    (live : player.live < 2 ^ 64) :
    player.statusLength ≤ 125 := by
  have first := length_decimal_le ticks
  have second := length_decimal_le cursor
  have third := length_decimal_le lastFrame
  have fourth := length_decimal_le live
  have word := length_phaseWord_le player.playback.phase
  rw [statusLength]
  split <;> omega

/-! ## Lines in their rows -/

/-- On a screen of this size some commands write a line in a row and change no other row. -/
def DrawsLine
    (commands : List Command)
    (size : Size)
    (row : Nat)
    (line : List Cell) : Prop :=
  ∀ (grid : Grid) (screen : Screen),
    screen.Idle size grid → (screen.told commands).Idle size (grid.setLine row line)

theorem drawsLine_drawHints
    {size : Size}
    (wide : 29 ≤ size.columns.toNat)
    (tall : 0 < size.rows.toNat) :
    DrawsLine drawHints size 0 hintLine := by
  intro grid screen idle
  exact idle_drawHints idle (by rwa [length_hintLine]) tall

theorem drawsLine_drawStatus
    {player : Player}
    (wide : player.statusLength ≤ player.terminal.columns.toNat)
    (tall : player.settings.canvas.rows.toNat + 1 < player.terminal.rows.toNat) :
    DrawsLine player.drawStatus player.terminal (player.settings.canvas.rows.toNat + 1)
      player.statusLine := by
  intro grid screen idle
  rw [← length_statusLine] at wide
  have someText : 0 < player.statusLine.length := by
    rw [length_statusLine, statusLength]
    omega
  exact idle_drawStatus_of_room tall (Nat.lt_of_lt_of_le someText wide) wide idle

end Player

namespace Session

/-- The player of a session at its start or after one of the moments of some turns. -/
def HasPlayer
    (session : Session)
    (turns : List (List PlayerEvent))
    (player : Player) : Prop :=
  player = session.player ∨ ∃ moment ∈ session.moments turns, player = moment.player

theorem HasPlayer.follows
    {schedule : Schedule}
    {settings : Settings}
    {session : Session}
    {turns : List (List PlayerEvent)}
    {player : Player}
    (follows : session.player.Follows schedule settings)
    (has : session.HasPlayer turns player) :
    player.Follows schedule settings := by
  rcases has with rfl | ⟨moment, member, rfl⟩
  · exact follows
  · exact follows_of_mem_moments follows member

/--
However a session goes on, each line is as long as its text, whatever the size
of the terminal.  Where the terminal has columns for it, and 125 are enough for
both lines as long as the numbers have 64 bits, drawing it changes its own row
and no other: neither does it go on in the next row nor does the terminal scroll.
-/
theorem lines_keep_to_their_rows
    {schedule : Schedule}
    {settings : Settings}
    {terminal : Size}
    {session : Session}
    (started : start schedule settings terminal = .ok session)
    (turns : List (List PlayerEvent))
    {player : Player}
    (has : session.HasPlayer turns player) :
    let columns := player.terminal.columns.toNat
    let statusRow := settings.canvas.rows.toNat + 1
    (Player.hintLine.length = 29 ∧ player.statusLine.length = player.statusLength) ∧
      (player.ticks < 2 ^ 64 ∧ schedule.lastFrame < 2 ^ 64 ∧ player.live < 2 ^ 64 →
        player.statusLength ≤ 125) ∧
      (29 ≤ columns → 0 < player.terminal.rows.toNat →
        Player.DrawsLine Player.drawHints player.terminal 0 Player.hintLine) ∧
      (player.statusLength ≤ columns → statusRow < player.terminal.rows.toNat →
        Player.DrawsLine player.drawStatus player.terminal statusRow player.statusLine) := by
  intro columns statusRow
  have follows := has.follows (follows_of_start started)
  refine ⟨⟨Player.length_hintLine, player.length_statusLine⟩, ?bound, ?hints, ?status⟩
  case bound =>
    rintro ⟨ticks, lastFrame, live⟩
    have reached := Playback.reached_afterSteps schedule settings.viewport player.ticks
    rw [← follows.playback_eq] at reached
    rw [← reached.lastFrame_eq] at lastFrame
    exact Player.statusLength_le ticks (Nat.lt_of_le_of_lt reached.cursor_le ticks) lastFrame live
  case hints => exact Player.drawsLine_drawHints
  case status =>
    have settingsEq := follows.settings_eq
    intro wide tall
    have drawn := Player.drawsLine_drawStatus wide (by rwa [settingsEq])
    rwa [settingsEq] at drawn

/-- After the first tick in a terminal of 125 columns that is just high enough. -/
theorem lines_keep_to_their_rows_after_a_tick :
    let terminal : Size := ⟨125, 42⟩
    let player := Player.start .empty {} terminal
    let session : Session := ⟨player, (opening ++ player.drawAll).toArray, none⟩
    start .empty {} terminal = .ok session ∧
      session.HasPlayer [[]] player.tick.player ∧
        Player.DrawsLine player.tick.player.drawStatus terminal 41
          player.tick.player.statusLine := by
  intro terminal player session
  have room : ({} : Settings).canvas.FitsIn terminal := by decide
  have started : start .empty {} terminal = .ok session := start_of_fitsIn .empty room
  have has : session.HasPlayer [[]] player.tick.player :=
    .inr ⟨⟨player.tick.player, false, player.tick.output⟩, List.mem_cons_self, rfl⟩
  have lines := lines_keep_to_their_rows started [[]] has
  exact ⟨started, has, lines.2.2.2 (by decide) (by decide)⟩

/--
The size check lets in a terminal in which the hints go on in a row of the
canvas, and the status lets the screen scroll.
-/
theorem lines_leave_their_rows_in_narrow_terminal :
    let settings : Settings := { canvas := { columns := 10, rows := 5 } }
    let screen : Screen := ⟨⟨10, 7⟩, .blank, 0, 0, {}, .ground⟩
    ∃ session,
      start .empty settings screen.size = .ok session ∧
        10 < Player.hintLine.length ∧ 10 < session.player.statusLine.length ∧
          (screen.told Player.drawHints).grid 0 1 = ⟨'a', { dim := true }⟩ ∧
            (screen.told session.output.toList).grid 1 0 ≠ ⟨'[', { bold := true }⟩ := by
  intro settings screen
  have room : settings.canvas.FitsIn screen.size := by decide
  refine ⟨_, start_of_fitsIn .empty room, ?_⟩
  decide +kernel

end Session

end Barrage
