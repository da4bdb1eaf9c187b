import Barrage.Proofs.Playback.Showing
import Barrage.Proofs.Player.Pausing

/-!
# The player agrees with playback

The player keeps a number of ticks, a number of projectiles and a canvas of its
own, beside the playback that it advances.  `Player.InStep` says that they are
those of playback, and that playback has been advanced once for each tick and
never after its end.  A tick keeps this unless playback is over, and events do
not touch it.

A session goes on for just as long as playback is not over, unless it is told
to stop (`Session.InStep`).  So whenever its player waits for input, there is
a next tick for it to play.
-/

namespace Barrage

open Barrage.Terminal

variable {schedule : Schedule} {settings : Settings} {stepped : List Playback}

/-! ## The player -/

namespace Player

/-- The player has played a schedule, with one tick from each of these states of playback. -/
structure InStep
    (schedule : Schedule)
    (settings : Settings)
    (stepped : List Playback)
    (player : Player) : Prop where
  follows : player.Follows schedule settings
  cursor_eq : player.playback.cursor = player.ticks
  /-- Each tick was played from the state that the ticks before it had led to. -/
  stepped_eq :
    stepped =
      (List.range player.ticks).map (Playback.start schedule settings.viewport).afterSteps
  stepped_unfinished : ∀ playback ∈ stepped, playback.phase ≠ .finished

namespace InStep

variable {player : Player}

theorem start
    (schedule : Schedule)
    (settings : Settings)
    (terminal : Size) :
    (Player.start schedule settings terminal).InStep schedule settings [] where
  follows := .start schedule settings terminal
  cursor_eq := rfl
  stepped_eq := rfl
  stepped_unfinished := by
    intro playback member
    cases member

/-- A tick that is not played after the end adds the state that it was played from. -/
theorem tick
    (inStep : player.InStep schedule settings stepped)
    (notFinished : player.playback.phase ≠ .finished) :
    player.tick.player.InStep schedule settings (stepped ++ [player.playback]) := by
  constructor
  case follows => exact inStep.follows.tick
  case cursor_eq =>
    change player.playback.step.playback.cursor = player.ticks + 1
    rw [Playback.step_of_not_finished notFinished, inStep.cursor_eq]
  case stepped_eq =>
    change _ = (List.range (player.ticks + 1)).map _
    rw [List.range_succ, List.map_append, ← inStep.stepped_eq, inStep.follows.playback_eq]
    rfl
  case stepped_unfinished =>
    intro playback member
    rcases List.mem_append.mp member with earlier | latest
    · exact inStep.stepped_unfinished playback earlier
    · rw [List.mem_singleton.mp latest]
      exact notFinished

/-- Events change the pause and the size of the terminal, and nothing that is kept twice. -/
theorem attend
    (inStep : player.InStep schedule settings stepped)
    (events : List PlayerEvent) :
    (player.attend events).player.InStep schedule settings stepped := by
  rw [attend_eq]
  exact { inStep with follows := { inStep.follows with } }

theorem length_stepped
    (inStep : player.InStep schedule settings stepped) :
    stepped.length = player.ticks := by
  rw [inStep.stepped_eq, List.length_map, List.length_range]

/-- The number of projectiles is that of the latest tick. -/
theorem live_eq_length_lastShown
    (inStep : player.InStep schedule settings stepped) :
    player.live =
      ((Playback.start schedule settings.viewport).lastShown player.ticks).length := by
  rw [inStep.follows.live_eq, ← Playback.length_entities, inStep.follows.playback_eq,
    Playback.lastShown_eq_entities]

theorem canvas_of_no_tick
    (inStep : player.InStep schedule settings stepped)
    (noTick : player.ticks = 0) :
    player.canvas = .blank settings.canvas.columns settings.canvas.rows := by
  rw [inStep.follows.canvas_eq, inStep.follows.playback_eq, noTick]
  exact Canvas.rasterize_nil _ _ _

end InStep

end Player

/-! ## Sessions -/

namespace Session

/-- The state of playback from which a turn plays a tick, if it plays one. -/
def steppedInTurn (session : Session) : List Playback :=
  if session.outcome.isSome then []
  else if session.player.paused then []
  else [session.player.playback]

/-- The states of playback from which the ticks of some turns are played, in order. -/
def steppedIn (session : Session) : List (List PlayerEvent) → List Playback
  | [] => []
  | events :: rest => session.steppedInTurn ++ (session.turn events).steppedIn rest

theorem steppedInTurn_of_waits
    {session : Session}
    (waits : session.Waits) :
    session.steppedInTurn = [] := by
  rw [steppedInTurn]
  rcases waits with ended | paused
  · rw [if_pos ended]
  · rw [if_pos paused, ite_self]

theorem steppedInTurn_of_playing
    {session : Session}
    (playing : ¬ session.Waits) :
    session.steppedInTurn = [session.player.playback] := by
  rw [Waits, not_or] at playing
  rw [steppedInTurn, if_neg playing.1, if_neg playing.2]

/-- The player is in step with playback, and the session has ended if playback has. -/
structure InStep
    (schedule : Schedule)
    (settings : Settings)
    (stepped : List Playback)
    (session : Session) : Prop where
  player : session.player.InStep schedule settings stepped
  outcome_of_finished :
    session.player.playback.phase = .finished →
      session.outcome = some (.finished session.player.ticks)
  outcome_of_unfinished :
    session.player.playback.phase ≠ .finished →
      session.outcome = none ∨ session.outcome = some (.interrupted session.player.ticks)

namespace InStep

variable {session : Session}

theorem phase_ne_finished
    (inStep : session.InStep schedule settings stepped)
    (going : session.outcome = none) :
    session.player.playback.phase ≠ .finished := by
  intro finished
  rw [inStep.outcome_of_finished finished] at going
  cases going

/-- The session reports the end of playback only at its end, and with its ticks. -/
theorem finished_of_outcome
    (inStep : session.InStep schedule settings stepped)
    {ticks : Nat}
    (ended : session.outcome = some (.finished ticks)) :
    session.player.playback.phase = .finished ∧ ticks = session.player.ticks := by
  by_cases finished : session.player.playback.phase = .finished
  · have reported := inStep.outcome_of_finished finished
    rw [ended] at reported
    cases reported
    exact ⟨finished, rfl⟩
  · rcases inStep.outcome_of_unfinished finished with going | interrupted
    · rw [ended] at going
      cases going
    · rw [ended] at interrupted
      cases interrupted

theorem attend
    (player : session.player.InStep schedule settings stepped)
    (notFinished : session.player.playback.phase ≠ .finished)
    (events : List PlayerEvent) :
    (session.attend events).InStep schedule settings stepped where
  player := player.attend events
  outcome_of_finished := by
    intro finished
    change (session.player.attend events).player.playback.phase = _ at finished
    rw [Player.attend_eq] at finished
    exact absurd finished notFinished
  outcome_of_unfinished := by
    intro _
    by_cases stopped : (session.player.attend events).stopped
    · exact .inr (if_pos stopped)
    · exact .inl (if_neg stopped)

theorem turn
    (inStep : session.InStep schedule settings stepped)
    (events : List PlayerEvent) :
    (session.turn events).InStep schedule settings (stepped ++ session.steppedInTurn) := by
  by_cases ended : session.outcome.isSome
  · rw [turn_of_ended ended, steppedInTurn_of_waits (.inl ended), List.append_nil]
    exact inStep
  have notFinished := inStep.phase_ne_finished (Option.not_isSome_iff_eq_none.mp ended)
  by_cases paused : session.player.paused
  · rw [turn_of_paused ended paused, steppedInTurn_of_waits (.inr paused), List.append_nil]
    exact attend inStep.player notFinished events
  have playing : ¬ session.Waits := not_or.mpr ⟨ended, paused⟩
  have ticked := inStep.player.tick notFinished
  have finishes : session.player.tick.finished = true ↔
      session.player.tick.player.playback.phase = .finished :=
    session.player.playback.finished_step_iff
  rw [steppedInTurn_of_playing playing]
  by_cases finished : session.player.tick.finished
  · rw [turn_of_finished playing finished]
    exact
      { player := ticked
        outcome_of_finished := fun _ => rfl
        outcome_of_unfinished := fun unfinished => absurd (finishes.mp finished) unfinished }
  · rw [turn_of_unfinished playing finished]
    exact attend ticked (mt finishes.mpr finished) events

theorem run
    (inStep : session.InStep schedule settings stepped)
    (turns : List (List PlayerEvent)) :
    (session.run turns).InStep schedule settings (stepped ++ session.steppedIn turns) := by
  induction turns generalizing session stepped with
  | nil =>
      rw [steppedIn, List.append_nil]
      exact inStep
  | cons events rest ih =>
      rw [steppedIn, ← List.append_assoc]
      exact ih (inStep.turn events)

end InStep

theorem inStep_start
    {terminal : Size}
    {session : Session}
    (started : start schedule settings terminal = .ok session) :
    session.InStep schedule settings [] := by
  obtain ⟨player, going⟩ := start_eq_ok started
  constructor
  case player =>
    rw [player]
    exact .start schedule settings terminal
  case outcome_of_finished =>
    rw [player]
    exact Phase.noConfusion
  case outcome_of_unfinished => exact fun _ => .inl going

/-- The wait of a paused player changes neither playback nor what is kept of it. -/
theorem turn_of_player_paused
    {session : Session}
    (paused : session.player.paused)
    (events : List PlayerEvent) :
    let handled := (session.turn events).player
    handled.playback = session.player.playback ∧
      handled.ticks = session.player.ticks ∧
      handled.live = session.player.live ∧
      handled.canvas = session.player.canvas := by
  intro handled
  by_cases ended : session.outcome.isSome
  · have same : handled = session.player := congrArg player (turn_of_ended ended events)
    rw [same]
    exact ⟨rfl, rfl, rfl, rfl⟩
  · have same : handled = (session.player.attend events).player :=
      congrArg player (turn_of_paused ended paused events)
    rw [same, Player.attend_eq]
    exact ⟨rfl, rfl, rfl, rfl⟩

/--
Whatever the keys and sizes that arrive, the player agrees with playback.  Its
ticks are the cursor and the number of times that playback was advanced, each
time from where the last had led and never after the end.  Its projectiles are
those in flight, which the latest tick has shown, and its canvas is a drawing
of them.  While it goes on, and so whenever it waits for input, playback is not
over.  What it handles while it is paused changes none of this.  When it
reports the end of playback, playback has come to its end after these ticks.
-/
theorem player_agrees_with_playback
    {schedule : Schedule}
    {settings : Settings}
    {terminal : Size}
    {session : Session}
    (started : start schedule settings terminal = .ok session)
    (turns : List (List PlayerEvent)) :
    let size := settings.canvas
    let reached := (Playback.start schedule settings.viewport).afterSteps
    let stepped := session.steppedIn turns
    let later := session.run turns
    let player := later.player
    (player.ticks = player.playback.cursor ∧ player.ticks = stepped.length) ∧
      (stepped = (List.range stepped.length).map reached ∧
        player.playback = reached stepped.length ∧
        ∀ playback ∈ stepped, playback.phase ≠ .finished) ∧
      (player.live = player.playback.liveCount ∧
        player.live =
          ((Playback.start schedule settings.viewport).lastShown player.ticks).length) ∧
      (player.canvas =
          Canvas.rasterize player.playback.entities player.playback.viewport size.columns
            size.rows ∧
        (player.ticks = 0 → player.canvas = .blank size.columns size.rows)) ∧
      (later.outcome = none → player.playback.phase ≠ .finished) ∧
      (player.paused → ∀ events,
        let handled := (later.turn events).player
        handled.playback = player.playback ∧
          handled.ticks = player.ticks ∧
          handled.live = player.live ∧
          handled.canvas = player.canvas) ∧
      ∀ ticks, later.outcome = some (.finished ticks) →
        player.playback.phase = .finished ∧
          ticks = player.playback.cursor ∧
          ticks = stepped.length := by
  intro size reached stepped later player
  have inStep : later.InStep schedule settings stepped := (inStep_start started).run turns
  have number : stepped.length = player.ticks := inStep.player.length_stepped
  have cursor : player.ticks = player.playback.cursor := inStep.player.cursor_eq.symm
  refine ⟨⟨cursor, number.symm⟩, ⟨?steps, ?state, ?unfinished⟩, ⟨?live, ?shown⟩, ⟨?canvas, ?blank⟩,
    ?going, ?paused, ?ended⟩
  case steps =>
    rw [number]
    exact inStep.player.stepped_eq
  case state =>
    rw [number]
    exact inStep.player.follows.playback_eq
  case unfinished => exact inStep.player.stepped_unfinished
  case live => exact inStep.player.follows.live_eq
  case shown => exact inStep.player.live_eq_length_lastShown
  case canvas => exact inStep.player.follows.canvas_eq
  case blank => exact inStep.player.canvas_of_no_tick
  case going => exact inStep.phase_ne_finished
  case paused => exact turn_of_player_paused
  case ended =>
    intro ticks ended
    obtain ⟨finished, same⟩ := inStep.finished_of_outcome ended
    exact ⟨finished, same.trans cursor, same.trans number.symm⟩

/-- A session with a bullet in flight that is paused and resized on its way to the end. -/
theorem player_agrees_with_playback_to_the_end :
    let bullet : BulletEvent := ⟨1, 0, 0, 0, 150⟩
    let schedule := ((Schedule.empty.insert 0 [bullet]).schedule.insert 2 []).schedule
    let space : PlayerEvent := .key { code := .character ' ' }
    let turns := [[space, .resized ⟨100, 50⟩], [], [space], [], []]
    ∃ session, start schedule {} ⟨80, 42⟩ = .ok session ∧
      (session.run (turns.take 2)).player.playback.liveCount = 1 ∧
      (session.run (turns.take 2)).player.live = 1 ∧
      (session.run turns).outcome = some (.finished 3) ∧
        3 = (session.run turns).player.playback.cursor ∧
        3 = (session.steppedIn turns).length := by
  intro bullet schedule space turns
  have room : ({} : Settings).canvas.FitsIn ⟨80, 42⟩ := by decide
  have started := start_of_fitsIn schedule room
  refine ⟨_, started, ?inFlight, ?counted, ?outcome, ?agrees⟩
  case inFlight => decide +kernel
  case counted =>
    rw [(player_agrees_with_playback started (turns.take 2)).2.2.1.1]
    decide +kernel
  case outcome => decide +kernel
  case agrees =>
    exact ((player_agrees_with_playback started turns).2.2.2.2.2.2 3 (by decide +kernel)).2

end Session

end Barrage
