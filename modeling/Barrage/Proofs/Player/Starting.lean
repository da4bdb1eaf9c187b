import Barrage.CommandLine
import Barrage.Proofs.Player.Moments

/-!
# The room that a session needs

A session starts exactly if the terminal has the columns of the canvas and two
more rows than it, whatever the sizes are.  All of these numbers have 16 bits.
As long as two rows more than the canvas is such a number, a refusal tells the
true numbers.  Where a session starts, no later sum overflows, and it keeps to
the rows that it has asked for, whatever happens
(`Session.start_decides_with_true_sizes`).

With one of the two largest canvases the sum overflows.  Then no session starts
in any terminal, but nothing is told of the room that is lacking.
-/

namespace Barrage

open Barrage.Terminal

/-! ## The rows that are drawn in -/

namespace Terminal

/-- The row that a command moves the cursor to. -/
def Command.row? : Command → Option UInt16
  | moveTo _ row => some row
  | _ => none

/-- The rows that some commands move the cursor to. -/
def rowsEntered (commands : List Command) : List UInt16 :=
  commands.filterMap Command.row?

theorem rowsEntered_append
    (before after : List Command) :
    rowsEntered (before ++ after) = rowsEntered before ++ rowsEntered after :=
  List.filterMap_append

theorem rowsEntered_flatMap
    {Item : Type}
    (items : List Item)
    (commands : Item → List Command) :
    rowsEntered (items.flatMap commands) = items.flatMap fun item => rowsEntered (commands item) :=
  List.filterMap_flatMap

theorem rowsEntered_printAll
    (text : List Char) :
    rowsEntered (Command.printAll text) = [] := by
  rw [rowsEntered, Command.printAll, List.filterMap_map]
  exact List.filterMap_eq_nil_iff.mpr fun _ _ => rfl

end Terminal

namespace Player

theorem rowsEntered_drawCell
    (settings : CanvasSettings)
    (marked : Bool) :
    rowsEntered (drawCell settings marked) = [] := by
  cases marked <;> rfl

theorem rowsEntered_drawRow
    (settings : CanvasSettings)
    (row : Nat)
    (cells : List Bool) :
    rowsEntered (drawRow settings row cells) = [canvasRow row.toUInt16] := by
  have inside : rowsEntered (cells.flatMap (drawCell settings)) = [] := by
    rw [rowsEntered_flatMap, List.flatMap_eq_nil_iff]
    intro cell _
    exact rowsEntered_drawCell settings cell
  rw [drawRow, ← List.singleton_append, rowsEntered_append, inside]
  rfl

/-- Each row of the canvas is drawn one row below its own number. -/
theorem rowsEntered_drawCanvas (player : Player) :
    rowsEntered player.drawCanvas =
      (List.range player.canvas.rows.toNat).map fun row => canvasRow row.toUInt16 := by
  rw [drawCanvas, rowsEntered_flatMap]
  simp only [rowsEntered_drawRow, ← List.map_eq_flatMap]
  rw [← player.canvas.rowCount, List.range_eq_range', ← List.zipIdx_map_snd, List.map_map]
  rfl

theorem rowsEntered_drawChanges
    (settings : CanvasSettings)
    (changes : List CellChange) :
    rowsEntered (drawChanges settings changes) = changes.map fun change => canvasRow change.row := by
  rw [drawChanges, rowsEntered_flatMap, List.map_eq_flatMap]
  refine List.flatMap_congr ?_
  intro change _
  rw [← List.singleton_append, rowsEntered_append, rowsEntered_drawCell]
  rfl

theorem rowsEntered_drawStatus (player : Player) :
    rowsEntered player.drawStatus =
      if player.terminal.rows ≤ player.statusRow then [] else [player.statusRow] := by
  rw [drawStatus]
  split
  next => rfl
  next =>
    rw [rowsEntered_append, rowsEntered_append, rowsEntered_printAll]
    rfl

theorem rowsEntered_drawHints : rowsEntered drawHints = [0] := by
  decide

/-! ## Rows within those that are needed -/

/-- Commands move the cursor to the rows of the canvas, the one above them and the one below. -/
def KeepsToRows
    (settings : CanvasSettings)
    (commands : List Command) : Prop :=
  ∀ row ∈ rowsEntered commands, row.toNat < settings.rows.toNat + 2

theorem KeepsToRows.append
    {settings : CanvasSettings}
    {before after : List Command}
    (first : KeepsToRows settings before)
    (second : KeepsToRows settings after) :
    KeepsToRows settings (before ++ after) := by
  intro row member
  rw [rowsEntered_append] at member
  rcases List.mem_append.mp member with early | late
  · exact first row early
  · exact second row late

section Rows

theorem toNat_canvasRow
    {rows row : UInt16}
    (small : rows.toNat + 2 < 2 ^ 16)
    (inside : row.toNat ≤ rows.toNat) :
    (canvasRow row).toNat = row.toNat + 1 := by
  rw [canvasRow, UInt16.toNat_add]
  exact Nat.mod_eq_of_lt (by rw [UInt16.toNat_one]; omega)

variable
    {schedule : Schedule}
    {settings : Settings}
    (small : settings.canvas.rows.toNat + 2 < 2 ^ 16)
    {player : Player}
    (follows : player.Follows schedule settings)

include small follows

theorem toNat_statusRow : player.statusRow.toNat = settings.canvas.rows.toNat + 1 := by
  rw [statusRow, follows.settings_eq]
  exact toNat_canvasRow small (Nat.le_refl _)

theorem keepsToRows_drawStatus : KeepsToRows settings.canvas player.drawStatus := by
  intro row member
  rw [rowsEntered_drawStatus] at member
  split at member
  next => cases member
  next =>
    rw [List.mem_singleton.mp member, toNat_statusRow small follows]
    omega

theorem keepsToRows_drawCanvas : KeepsToRows settings.canvas player.drawCanvas := by
  intro row member
  rw [rowsEntered_drawCanvas, follows.canvas_rows, follows.settings_eq] at member
  obtain ⟨place, inRange, rfl⟩ := List.mem_map.mp member
  have inside := List.mem_range.mp inRange
  have kept : place.toUInt16.toNat = place := UInt16.toNat_ofNat_of_lt' (by
    change place < 2 ^ 16
    omega)
  rw [toNat_canvasRow small (by omega), kept]
  omega

theorem keepsToRows_drawAll : KeepsToRows settings.canvas player.drawAll := by
  have hints : KeepsToRows settings.canvas drawHints := by
    intro row member
    rw [rowsEntered_drawHints] at member
    rw [List.mem_singleton.mp member]
    exact Nat.succ_pos _
  exact
    (hints.append (keepsToRows_drawCanvas small follows)).append
      (keepsToRows_drawStatus small follows)

theorem keepsToRows_tick : KeepsToRows settings.canvas player.tick.output := by
  have next := follows.tick
  have sameColumns : player.canvas.columns = player.tick.player.canvas.columns := by
    rw [follows.canvas_columns, next.canvas_columns, follows.settings_eq, next.settings_eq]
  have sameRows : player.canvas.rows = player.tick.player.canvas.rows := by
    rw [follows.canvas_rows, next.canvas_rows, follows.settings_eq, next.settings_eq]
  rw [output_tick]
  refine KeepsToRows.append ?_ (keepsToRows_drawStatus small next)
  intro row member
  rw [rowsEntered_drawChanges] at member
  obtain ⟨change, changed, rfl⟩ := List.mem_map.mp member
  have inside := ((Canvas.mem_changes_iff sameColumns sameRows).mp changed).2.1
  rw [next.canvas_rows, next.settings_eq] at inside
  rw [toNat_canvasRow small (Nat.le_of_lt inside)]
  omega

theorem keepsToRows_handle
    {event : PlayerEvent}
    {next : Player}
    {output : List Command}
    (handled : player.handle event = .proceed next output) :
    KeepsToRows settings.canvas output := by
  have followsNext := follows.handle handled
  cases event with
  | key key =>
      rw [Player.handle] at handled
      split at handled
      next =>
        cases handled
        intro row member
        cases member
      next =>
        cases handled
        exact keepsToRows_drawStatus small followsNext
      next => cases handled
  | resized size =>
      cases handled
      exact keepsToRows_drawAll small followsNext

/-- No moment moves the cursor out of the rows that were asked for. -/
theorem Makes.keepsToRows
    {moment : Moment}
    (made : player.Makes moment) :
    KeepsToRows settings.canvas moment.sent := by
  cases made with
  | tick => exact keepsToRows_tick small follows
  | handle handled => exact keepsToRows_handle small follows handled

end Rows

end Player

namespace Session

variable
    {schedule : Schedule}
    {settings : Settings}
    {terminal : Size}

/-! ## The size check -/

theorem start_of_overflow
    (schedule : Schedule)
    (terminal : Size)
    (large : 2 ^ 16 ≤ settings.canvas.rows.toNat + 2) :
    start schedule settings terminal = .error .overflow := by
  have overflow : neededSize? settings.canvas = none := if_neg (Nat.not_lt.mpr large)
  rw [start, overflow]

/-- A refusal holds the sizes as they are. -/
theorem start_of_not_fitsIn
    (schedule : Schedule)
    (small : settings.canvas.rows.toNat + 2 < 2 ^ 16)
    (noRoom : ¬ settings.canvas.FitsIn terminal) :
    ∃ needed : Size,
      start schedule settings terminal = .error (.tooSmall ⟨needed, terminal⟩) ∧
        needed.columns = settings.canvas.columns ∧
          needed.rows.toNat = settings.canvas.rows.toNat + 2 := by
  obtain ⟨needed, sized, columns, rows⟩ := exists_neededSize? small
  have lacking : terminal.columns < needed.columns ∨ terminal.rows < needed.rows := by
    rw [UInt16.lt_iff_toNat_lt, UInt16.lt_iff_toNat_lt, columns, rows]
    by_contra enough
    rw [not_or, Nat.not_lt, Nat.not_lt] at enough
    exact noRoom ⟨enough.1, enough.2⟩
  refine ⟨needed, ?_, columns, rows⟩
  rw [start, sized]
  exact if_pos lacking

theorem fitsIn_of_start
    {session : Session}
    (started : start schedule settings terminal = .ok session) :
    settings.canvas.FitsIn terminal := by
  by_contra noRoom
  rcases Nat.lt_or_ge (settings.canvas.rows.toNat + 2) (2 ^ 16) with small | large
  · obtain ⟨needed, refused, -⟩ := start_of_not_fitsIn schedule small noRoom
    rw [refused] at started
    cases started
  · rw [start_of_overflow schedule terminal large] at started
    cases started

theorem rows_lt_of_start
    {session : Session}
    (started : start schedule settings terminal = .ok session) :
    settings.canvas.rows.toNat + 2 < 2 ^ 16 :=
  Nat.lt_of_le_of_lt (fitsIn_of_start started).rows terminal.rows.toNat_lt

/-! ## The rows of a run -/

/-- Whatever arrives, a session keeps to the rows that were asked for. -/
theorem keepsToRows_run
    {session : Session}
    (started : start schedule settings terminal = .ok session)
    (turns : List (List PlayerEvent)) :
    Player.KeepsToRows settings.canvas (session.run turns).transcript := by
  have small := rows_lt_of_start started
  have first : session.output.toList =
      opening ++ (Player.start schedule settings terminal).drawAll := by
    rw [eq_of_start_eq_ok started]
  have starts := follows_of_start started
  have opened : Player.KeepsToRows settings.canvas opening := by
    intro row member
    cases member
  have drawn := Player.keepsToRows_drawAll small (.start schedule settings terminal)
  have moved : Player.KeepsToRows settings.canvas ((session.moments turns).flatMap (·.sent)) := by
    intro row member
    rw [rowsEntered_flatMap] at member
    obtain ⟨moment, happened, entered⟩ := List.mem_flatMap.mp member
    obtain ⟨earlier, follows, made⟩ := exists_makes_of_mem_moments starts happened
    exact made.keepsToRows small follows row entered
  have closed :
      Player.KeepsToRows settings.canvas
        (if (session.run turns).outcome.isSome then closing else []) := by
    intro row member
    split at member <;> cases member
  rw [transcript, output_run, first]
  exact ((opened.append drawn).append moved).append closed

/--
The size check decides with the true sizes: a session starts exactly in a
terminal with the columns of the canvas and two more rows than it has.  A
terminal without this room gets nothing but the true numbers as the fault, if
the rows that are needed can be counted with 16 bits.  Otherwise the start
breaks off in every terminal.  Where a session has started, the rows of the
canvas and of the status are one more than their numbers, and the cursor never
moves out of the rows that the terminal had at the start.
-/
theorem start_decides_with_true_sizes
    (schedule : Schedule)
    (settings : Settings)
    (terminal : Size) :
    let canvas := settings.canvas
    ((∃ session, start schedule settings terminal = .ok session) ↔
        canvas.columns.toNat ≤ terminal.columns.toNat ∧
          canvas.rows.toNat + 2 ≤ terminal.rows.toNat) ∧
      (canvas.rows.toNat + 2 < 2 ^ 16 →
        terminal.columns.toNat < canvas.columns.toNat ∨
            terminal.rows.toNat < canvas.rows.toNat + 2 →
          ∃ fault, start schedule settings terminal = .error (.tooSmall fault) ∧
            fault.message =
              s!"Terminal too small: need {canvas.columns.toNat}x{canvas.rows.toNat + 2}, " ++
                s!"have {terminal.columns.toNat}x{terminal.rows.toNat}" ∧
            CommandLine.startResponse (.tooSmall fault) =
              ⟨1, "", s!"Error: {fault.message}\n"⟩) ∧
      (2 ^ 16 ≤ canvas.rows.toNat + 2 →
        start schedule settings terminal = .error .overflow ∧
          CommandLine.startResponse .overflow = ⟨101, "", "attempt to add with overflow\n"⟩) ∧
      ∀ session, start schedule settings terminal = .ok session →
        (∀ row : UInt16, row.toNat < canvas.rows.toNat →
          (Player.canvasRow row).toNat = row.toNat + 1) ∧
        ∀ turns,
          (session.run turns).player.statusRow.toNat = canvas.rows.toNat + 1 ∧
            ∀ row ∈ rowsEntered (session.run turns).transcript,
              row.toNat < terminal.rows.toNat := by
  intro canvas
  refine ⟨⟨?fits, ?starts⟩, ?refused, ?overflow, ?rows⟩
  case fits =>
    rintro ⟨session, started⟩
    have room := fitsIn_of_start started
    exact ⟨room.columns, room.rows⟩
  case starts =>
    rintro ⟨columns, rows⟩
    exact ⟨_, start_of_fitsIn schedule ⟨columns, rows⟩⟩
  case refused =>
    intro small lacking
    have noRoom : ¬ canvas.FitsIn terminal := by
      rintro ⟨columns, rows⟩
      omega
    obtain ⟨needed, refused, columns, rows⟩ := start_of_not_fitsIn schedule small noRoom
    refine ⟨_, refused, ?_, rfl⟩
    change _ = s!"Terminal too small: need {settings.canvas.columns.toNat}x{_}, " ++ _
    rw [← columns, ← rows]
    rfl
  case overflow =>
    intro large
    exact ⟨start_of_overflow schedule terminal large, rfl⟩
  case rows =>
    intro session started
    have small := rows_lt_of_start started
    have room := fitsIn_of_start started
    refine ⟨fun row inside => Player.toNat_canvasRow small (Nat.le_of_lt inside), ?_⟩
    intro turns
    refine ⟨Player.toNat_statusRow small (follows_run (follows_of_start started) turns), ?_⟩
    intro row entered
    exact Nat.lt_of_lt_of_le (keepsToRows_run started turns row entered) room.rows

/--
A terminal that lacks room for one of the two largest canvases is not told so:
the rows that are needed cannot be counted with 16 bits.
-/
theorem start_overflows_for_large_canvas :
    let settings : Settings := { canvas := { columns := 100, rows := 65534 } }
    let terminal : Size := ⟨80, 24⟩
    terminal.columns.toNat < settings.canvas.columns.toNat ∧
      terminal.rows.toNat < settings.canvas.rows.toNat + 2 ∧
      ∃ fault,
        start .empty settings terminal = .error fault ∧
          CommandLine.startResponse fault = ⟨101, "", "attempt to add with overflow\n"⟩ ∧
          CommandLine.startResponse fault ≠
            ⟨1, "", "Error: Terminal too small: need 100x65536, have 80x24\n"⟩ := by
  intro settings terminal
  refine ⟨by decide, by decide, .overflow, ?_, rfl, by decide⟩
  exact start_of_overflow .empty terminal (by decide)

end Session

end Barrage
