import Barrage.Proofs.Playback.Phases
import Barrage.Proofs.Player.Input
import Barrage.Proofs.Player.Watching
import Mathlib.Algebra.Group.Nat.Even

/-!
# Input between ticks

Between two ticks the player waits, and handles what arrives meanwhile.  If it
has been paused then, the wait goes on in later turns.  However its events are
divided into turns, a wait is a single turn with all of them
(`Session.run_eq_turn`), so that the input of a wait is described by the events
alone.

What a session does from then on depends on its player and on whether it has
ended, not on what it has sent (`Session.Alike`).  So input that leaves the
player as it was has no effect but what was sent for it.
-/

namespace Barrage

open Barrage.Terminal

/-! ## Ticks up to the end -/

/-- The tick that playback ends with is the one that finishes it. -/
theorem Player.Follows.finished_tick_iff
    {schedule : Schedule}
    {settings : Settings}
    {player : Player}
    {last : Nat}
    (follows : player.Follows schedule settings)
    (ends : (Playback.start schedule settings.viewport).FinishesAfter last) :
    player.tick.finished = true ↔ last ≤ player.ticks + 1 := by
  change player.playback.step.tick.finished = true ↔ _
  rw [Playback.finished_step_iff, ← ends.phase_eq_finished_iff, Playback.afterSteps_succ,
    follows.playback_eq]

theorem Player.Follows.attend
    {schedule : Schedule}
    {settings : Settings}
    {player : Player}
    (follows : player.Follows schedule settings)
    (events : List PlayerEvent) :
    (player.attend events).player.Follows schedule settings := by
  rw [attend_eq]
  exact { follows with }

namespace Session

theorem send_send
    (session : Session)
    (first second : List Command) :
    (session.send first).send second = session.send (first ++ second) := by
  have sent : session.output ++ first ++ second = session.output ++ (first ++ second) := by
    apply Array.toList_inj.mp
    simp only [Array.toList_appendList, List.append_assoc]
  rw [send, send, send, sent]

theorem run_concat
    (session : Session)
    (turns : List (List PlayerEvent))
    (events : List PlayerEvent) :
    session.run (turns ++ [events]) = (session.run turns).turn events :=
  List.foldl_concat turn session events turns

/-! ## Turns -/

/-- The session plays no tick in its next turn. -/
def Waits (session : Session) : Prop :=
  session.outcome.isSome ∨ session.player.paused

/-- The session after a tick, before any input. -/
def tick (session : Session) : Session :=
  { session with player := session.player.tick.player }.send session.player.tick.output

section Turns

variable {session : Session}

theorem turn_of_finished
    (playing : ¬ session.Waits)
    (finished : session.player.tick.finished)
    (events : List PlayerEvent) :
    session.turn events =
      { session.tick with outcome := some (.finished (session.player.ticks + 1)) } := by
  rw [Waits, not_or] at playing
  rw [turn, if_neg playing.1, if_neg playing.2]
  exact if_pos finished

theorem turn_of_unfinished
    (playing : ¬ session.Waits)
    (unfinished : ¬ session.player.tick.finished)
    (events : List PlayerEvent) :
    session.turn events = session.tick.attend events := by
  rw [Waits, not_or] at playing
  rw [turn, if_neg playing.1, if_neg playing.2]
  exact if_neg unfinished

theorem turn_of_ended
    (ended : session.outcome.isSome)
    (events : List PlayerEvent) :
    session.turn events = session :=
  if_pos ended

theorem run_of_ended
    (ended : session.outcome.isSome)
    (turns : List (List PlayerEvent)) :
    session.run turns = session := by
  induction turns with
  | nil => rfl
  | cons events rest ih => rwa [run, List.foldl_cons, turn_of_ended ended]

theorem turn_of_paused
    (going : ¬ session.outcome.isSome)
    (paused : session.player.paused)
    (events : List PlayerEvent) :
    session.turn events = session.attend events := by
  rw [turn, if_neg going, if_pos paused]

theorem attend_nil
    (going : session.outcome = none) :
    session.attend [] = session := by
  rcases session with ⟨player, output, outcome⟩
  cases going
  simp [attend, Player.attend, send]

/-! ## One wait in several turns -/

theorem attend_turn
    {first : List PlayerEvent}
    (waits : (session.attend first).Waits)
    (second : List PlayerEvent) :
    (session.attend first).turn second = session.attend (first ++ second) := by
  by_cases stopped : (session.player.attend first).stopped
  · have outcome : (session.attend first).outcome.isSome := by
      rw [attend, if_pos stopped]
      rfl
    rw [turn_of_ended outcome, attend, attend, Player.attend_append]
    simp only [if_pos stopped]
  · have going : ¬ (session.attend first).outcome.isSome := by
      rw [attend, if_neg stopped]
      exact Bool.false_ne_true
    rw [turn_of_paused going (waits.resolve_left going), attend, attend, attend,
      Player.attend_append]
    simp only [if_neg stopped, ← send_send]
    rfl

theorem turn_turn
    {first : List PlayerEvent}
    (waits : (session.turn first).Waits)
    (second : List PlayerEvent) :
    (session.turn first).turn second = session.turn (first ++ second) := by
  by_cases ended : session.outcome.isSome
  · simp only [turn_of_ended ended]
  by_cases paused : session.player.paused
  · rw [turn_of_paused ended paused] at waits ⊢
    rw [turn_of_paused ended paused, attend_turn waits]
  have playing : ¬ session.Waits := not_or.mpr ⟨ended, paused⟩
  by_cases finished : session.player.tick.finished
  · rw [turn_of_finished playing finished, turn_of_finished playing finished]
    exact turn_of_ended rfl second
  · rw [turn_of_unfinished playing finished] at waits ⊢
    rw [turn_of_unfinished playing finished, attend_turn waits]

theorem ticks_attend
    (session : Session)
    (events : List PlayerEvent) :
    (session.attend events).player.ticks = session.player.ticks :=
  session.player.ticks_attend events

theorem ticks_turn_of_waits
    (waits : session.Waits)
    (events : List PlayerEvent) :
    (session.turn events).player.ticks = session.player.ticks := by
  by_cases ended : session.outcome.isSome
  · rw [turn_of_ended ended]
  · rw [turn_of_paused ended (waits.resolve_left ended), ticks_attend]

theorem ticks_turn
    (playing : ¬ session.Waits)
    (events : List PlayerEvent) :
    (session.turn events).player.ticks = session.player.ticks + 1 := by
  by_cases finished : session.player.tick.finished
  · rw [turn_of_finished playing finished]
    rfl
  · rw [turn_of_unfinished playing finished, ticks_attend]
    rfl

theorem ticks_le_turn
    (session : Session)
    (events : List PlayerEvent) :
    session.player.ticks ≤ (session.turn events).player.ticks := by
  by_cases waits : session.Waits
  · rw [ticks_turn_of_waits waits]
  · rw [ticks_turn waits]
    exact Nat.le_succ _

theorem ticks_le_run
    (session : Session)
    (turns : List (List PlayerEvent)) :
    session.player.ticks ≤ (session.run turns).player.ticks := by
  induction turns generalizing session with
  | nil => exact Nat.le_refl _
  | cons events rest ih => exact Nat.le_trans (session.ticks_le_turn events) (ih _)

/-- Turns without a further tick are one turn with all of their events. -/
theorem run_eq_turn
    {first : List PlayerEvent}
    {rest : List (List PlayerEvent)}
    (same :
      ((session.turn first).run rest).player.ticks = (session.turn first).player.ticks) :
    (session.turn first).run rest = session.turn (first ++ rest.flatten) := by
  induction rest generalizing first with
  | nil =>
      rw [List.flatten_nil, List.append_nil]
      rfl
  | cons second rest ih =>
      rw [run, List.foldl_cons, ← run] at same ⊢
      have waits : (session.turn first).Waits := by
        by_contra playing
        have later := ticks_le_run ((session.turn first).turn second) rest
        rw [same, ticks_turn playing] at later
        exact absurd later (Nat.not_succ_le_self _)
      rw [turn_turn waits] at same ⊢
      rw [← ticks_turn_of_waits waits second, turn_turn waits] at same
      rw [ih same, List.flatten_cons, List.append_assoc]

/-- Up to the end of the wait after a tick the session handles what arrives, and no more. -/
theorem run_eq_attend
    {turns : List (List PlayerEvent)}
    (playing : ¬ session.Waits)
    (unfinished : ¬ session.player.tick.finished)
    (once : (session.run turns).player.ticks = session.player.ticks + 1) :
    session.run turns = session.tick.attend turns.flatten := by
  cases turns with
  | nil => exact absurd once (Nat.succ_ne_self _).symm
  | cons first rest =>
      rw [← ticks_turn playing first] at once
      rw [List.flatten_cons, ← turn_of_unfinished playing unfinished]
      exact run_eq_turn once

end Turns

/-! ## What was sent before -/

/-- The sessions differ in nothing but what they have sent. -/
structure Alike (one other : Session) : Prop where
  player_eq : one.player = other.player
  outcome_eq : one.outcome = other.outcome

namespace Alike

variable {one other : Session}

theorem turn
    (alike : one.Alike other)
    (events : List PlayerEvent) :
    (one.turn events).Alike (other.turn events) := by
  rcases one with ⟨player, output, outcome⟩
  rcases other with ⟨_, _, _⟩
  rcases alike with ⟨rfl, rfl⟩
  simp only [Session.turn]
  split
  next => exact ⟨rfl, rfl⟩
  next =>
    split
    next => exact ⟨rfl, rfl⟩
    next => split <;> exact ⟨rfl, rfl⟩

theorem run
    (alike : one.Alike other)
    (turns : List (List PlayerEvent)) :
    (one.run turns).Alike (other.run turns) := by
  induction turns generalizing one other with
  | nil => exact alike
  | cons events rest ih => exact ih (alike.turn events)

theorem moments_eq
    (alike : one.Alike other)
    (turns : List (List PlayerEvent)) :
    one.moments turns = other.moments turns := by
  induction turns generalizing one other with
  | nil => rfl
  | cons events rest ih =>
      rw [moments, moments, ih (alike.turn events), turnMoments, turnMoments, alike.player_eq,
        alike.outcome_eq]

/-- Both add the same to what they have sent. -/
theorem transcript_run
    (alike : one.Alike other)
    (turns : List (List PlayerEvent)) :
    ∃ added,
      (one.run turns).transcript = one.output.toList ++ added ∧
        (other.run turns).transcript = other.output.toList ++ added := by
  refine
    ⟨(one.moments turns).flatMap (·.sent) ++ if (one.run turns).outcome.isSome then closing else [],
      ?_, ?_⟩
  · rw [transcript, output_run, List.append_assoc]
  · rw [transcript, output_run, List.append_assoc, alike.moments_eq, (alike.run turns).outcome_eq]

end Alike

/-! ## To the end without input -/

/-- Left alone, a session that plays comes to the end of playback. -/
theorem outcome_run_replicate
    {schedule : Schedule}
    {settings : Settings}
    {session : Session}
    {last : Nat}
    (follows : session.player.Follows schedule settings)
    (ends : (Playback.start schedule settings.viewport).FinishesAfter last)
    (playing : ¬ session.Waits)
    (early : session.player.ticks < last) :
    (session.run (List.replicate (last - session.player.ticks) [])).outcome =
      some (.finished last) := by
  induction left : last - session.player.ticks generalizing session with
  | zero => exact absurd left (Nat.sub_ne_zero_of_lt early)
  | succ remaining ih =>
      have finishes := follows.finished_tick_iff ends
      rw [List.replicate_succ, run, List.foldl_cons, ← run]
      by_cases finished : session.player.tick.finished
      · have last_eq : session.player.ticks + 1 = last :=
          Nat.le_antisymm early (finishes.mp finished)
        rw [turn_of_finished playing finished, run_of_ended rfl, last_eq]
      · have later : session.player.ticks + 1 < last :=
          Nat.lt_of_not_le (mt finishes.mpr finished)
        have going : session.tick.outcome = none :=
          Option.not_isSome_iff_eq_none.mp (not_or.mp playing).1
        have ticked : session.tick.player.Follows schedule settings := follows.tick
        rw [turn_of_unfinished playing finished, attend_nil going]
        apply ih ticked playing later
        change last - (session.player.ticks + 1) = remaining
        rw [Nat.sub_add_eq, left, Nat.add_sub_cancel]

/-! ## Input after the first tick -/

theorem eq_of_start_eq_ok
    {schedule : Schedule}
    {settings : Settings}
    {terminal : Size}
    {session : Session}
    (started : start schedule settings terminal = .ok session) :
    session =
      ⟨.start schedule settings terminal,
        (opening ++ (Player.start schedule settings terminal).drawAll).toArray, none⟩ := by
  rw [start] at started
  split at started
  next => cases started
  next =>
    split at started
    next => cases started
    next =>
      cases started
      rfl

theorem start_eq_ok
    {schedule : Schedule}
    {settings : Settings}
    {terminal : Size}
    {session : Session}
    (started : start schedule settings terminal = .ok session) :
    session.player = .start schedule settings terminal ∧ session.outcome = none := by
  rw [eq_of_start_eq_ok started]
  exact ⟨rfl, rfl⟩

section Following

variable {schedule : Schedule} {settings : Settings} {session : Session}

theorem follows_of_start
    {terminal : Size}
    (started : start schedule settings terminal = .ok session) :
    session.player.Follows schedule settings := by
  rw [(start_eq_ok started).1]
  exact .start schedule settings terminal

theorem follows_turn
    (follows : session.player.Follows schedule settings)
    (events : List PlayerEvent) :
    (session.turn events).player.Follows schedule settings := by
  by_cases ended : session.outcome.isSome
  · rw [turn_of_ended ended]
    exact follows
  by_cases paused : session.player.paused
  · rw [turn_of_paused ended paused]
    exact follows.attend events
  have playing : ¬ session.Waits := not_or.mpr ⟨ended, paused⟩
  by_cases finished : session.player.tick.finished
  · rw [turn_of_finished playing finished]
    exact follows.tick
  · rw [turn_of_unfinished playing finished]
    exact follows.tick.attend events

theorem follows_run
    (follows : session.player.Follows schedule settings)
    (turns : List (List PlayerEvent)) :
    (session.run turns).player.Follows schedule settings := by
  induction turns generalizing session with
  | nil => exact follows
  | cons events rest ih => exact ih (follows_turn follows events)

end Following

section Input

variable {session : Session}

/-- Keys of even toggles that do not quit leave nothing behind but a status for each toggle. -/
theorem attend_keys_of_even
    (going : session.outcome = none)
    {keys : List Key}
    (staying : ∀ key ∈ keys, key.asksToQuit = false)
    (even : Even (keys.countP Key.togglesPause)) :
    (session.attend (keys.map .key)).Alike session ∧
      (session.attend (keys.map .key)).output.toList =
        session.output.toList ++ session.player.redraws (keys.countP Key.togglesPause) := by
  have attended := session.player.attend_keys staying
  constructor
  · constructor
    · change (session.player.attend _).player = _
      rw [attended, Player.pausedAfter, Nat.even_iff.mp even]
      change session.player.withPause (session.player.paused ^^ false) = session.player
      rw [Bool.xor_false]
      rfl
    · rw [attend, attended]
      exact going.symm
  · rw [attend, output_send, attended]

/-- A key that quits ends the session, and what arrives after it has no effect. -/
theorem attend_quit
    (session : Session)
    (before after : List PlayerEvent)
    {quit : Key}
    (asks : quit.asksToQuit) :
    let stopped := session.attend (before ++ [.key quit])
    session.attend (before ++ .key quit :: after) = stopped ∧
      stopped.outcome = some (.interrupted session.player.ticks) := by
  intro stopped
  have outcome : stopped.outcome = some (.interrupted session.player.ticks) := by
    rw [← session.player.ticks_attend (before ++ [.key quit])]
    exact if_pos (session.player.stopped_attend_quit before asks)
  have ended : stopped.outcome.isSome := by
    rw [outcome]
    rfl
  refine ⟨?_, outcome⟩
  calc
    session.attend (before ++ .key quit :: after)
      = session.attend ((before ++ [.key quit]) ++ after) := by
        rw [List.append_assoc, List.singleton_append]
    _ = stopped.turn after := (attend_turn (.inl ended) after).symm
    _ = stopped := turn_of_ended ended after

/-- A paused player takes a new size of the terminal as it is, and draws everything again. -/
theorem turn_resized
    {events : List PlayerEvent}
    {size : Size}
    (paused : (session.turn events).player.paused)
    (going : (session.turn events).outcome = none) :
    let waiting := session.turn events
    let resized := session.turn (events ++ [.resized size])
    resized.player = { waiting.player with terminal := size } ∧
      resized.outcome = none ∧
      resized.output.toList = waiting.output.toList ++ .eraseScreen :: resized.player.drawAll := by
  intro waiting resized
  have same : resized = waiting.attend [.resized size] := by
    rw [← turn_of_paused (by simp [going]) paused]
    exact (turn_turn (.inr paused) _).symm
  rw [same]
  refine ⟨rfl, rfl, ?_⟩
  rw [attend, output_send]
  exact congrArg (waiting.output.toList ++ ·) (List.append_nil _)

/-- The first tick is not the last, and what arrives before the second is handled in one wait. -/
theorem turn_first
    {schedule : Schedule}
    {settings : Settings}
    {terminal : Size}
    {count : Nat}
    (started : start schedule settings terminal = .ok session)
    (ends : (Playback.start schedule settings.viewport).FinishesAfter count)
    (several : 1 < count) :
    let first := session.turn []
    first.player.Follows schedule settings ∧
      first.player.ticks = 1 ∧
      ¬ first.Waits ∧
      (∀ events, (session.turn events).player.ticks = 1) ∧
      ∀ turns, (session.run turns).player.ticks = 1 →
        session.run turns = first.attend turns.flatten := by
  intro first
  obtain ⟨player, going⟩ := start_eq_ok started
  have follows : session.player.Follows schedule settings := by
    rw [player]
    exact .start schedule settings terminal
  have ticks : session.player.ticks = 0 := by
    rw [player]
    rfl
  have playing : ¬ session.Waits := by
    rw [Waits, player, going]
    exact not_or.mpr ⟨Bool.false_ne_true, Bool.false_ne_true⟩
  have unfinished : ¬ session.player.tick.finished := by
    rw [follows.finished_tick_iff ends, ticks]
    exact Nat.not_le.mpr several
  have once (events : List PlayerEvent) : (session.turn events).player.ticks = 1 := by
    rw [ticks_turn playing, ticks]
  have first_eq : first = session.tick :=
    (turn_of_unfinished playing unfinished []).trans (attend_nil going)
  refine ⟨?follows, once [], ?playing, once, ?together⟩
  case follows =>
    rw [first_eq]
    exact follows.tick
  case playing =>
    rw [first_eq]
    exact playing
  case together =>
    intro turns same
    rw [first_eq]
    apply run_eq_attend playing unfinished
    rw [same, ticks]

/--
Input between ticks does not change what is played.  Keys that arrive after the
first tick and before the second, in however many turns, leave nothing behind
but statuses if they do not quit and toggle the pause an even number of times,
and then playback goes on to its end; a key that quits ends it there, and later
keys have no effect.  A new size of the terminal, whenever it comes in a pause,
has everything drawn again and changes nothing else: the screen is erased, and
then the hints, each cell in each row of the present canvas and the status with
the mark of the pause are sent.
-/
theorem input_leaves_playback_alone
    {schedule : Schedule}
    {settings : Settings}
    {terminal : Size}
    {session : Session}
    {count : Nat}
    (started : start schedule settings terminal = .ok session)
    (ends : (Playback.start schedule settings.viewport).FinishesAfter count)
    (several : 1 < count) :
    let pressed (keys : List Key) := keys.map PlayerEvent.key
    let first := session.turn []
    (∀ keys, (session.run [pressed keys]).player.ticks = 1) ∧
      (∀ turns : List (List Key), (session.run (turns.map pressed)).player.ticks = 1 →
        let handled := session.run (turns.map pressed)
        let keys := turns.flatten
        let toggles := keys.countP Key.togglesPause
        ((∀ key ∈ keys, key.asksToQuit = false) → Even toggles →
          (∀ later, ∃ added,
            (first.run later).transcript = first.output.toList ++ added ∧
              (handled.run later).transcript =
                first.output.toList ++
                  ((List.range toggles).flatMap fun earlier =>
                    first.player.statusRedraw (earlier % 2 == 0)) ++ added ∧
              (handled.run later).player = (first.run later).player ∧
              (handled.run later).outcome = (first.run later).outcome) ∧
          (handled.run (List.replicate (count - 1) [])).outcome = some (.finished count)) ∧
        (∀ before quit after, keys = before ++ quit :: after → quit.asksToQuit →
          handled = session.run [pressed (before ++ [quit])] ∧
            handled.outcome = some (.interrupted 1) ∧
            ∀ later, handled.run later = handled)) ∧
      (∀ (turns : List (List PlayerEvent)) (events : List PlayerEvent) (size : Size),
        let waiting := session.run (turns ++ [events])
        let resized := session.run (turns ++ [events ++ [.resized size]])
        let canvas := settings.canvas
        let playback := waiting.player.playback
        let marks :=
          Canvas.rasterize playback.entities playback.viewport canvas.columns canvas.rows
        waiting.player.paused → waiting.outcome = none →
          resized.player = { waiting.player with terminal := size } ∧
            resized.outcome = none ∧
            resized.output.toList =
              waiting.output.toList ++
                .eraseScreen ::
                  (Player.hintsRedraw ++ Player.canvasRedraw canvas marks ++
                    resized.player.statusRedraw true)) := by
  intro pressed first
  obtain ⟨follows, ticks, playing, once, together⟩ := turn_first started ends several
  have going : first.outcome = none := Option.not_isSome_iff_eq_none.mp (not_or.mp playing).1
  have unpaused : first.player.paused = false := Bool.eq_false_of_not_eq_true (not_or.mp playing).2
  refine ⟨fun keys => once (pressed keys), ?keys, ?resized⟩
  case keys =>
    intro turns same handled keys toggles
    have handledAtOnce : handled = first.attend (pressed keys) := by
      change _ = first.attend (turns.flatten.map .key)
      rw [List.map_flatten]
      exact together (turns.map pressed) same
    constructor
    · intro staying even
      obtain ⟨alike, output⟩ := attend_keys_of_even going staying even
      rw [← handledAtOnce] at alike output
      constructor
      · intro later
        obtain ⟨added, ofHandled, ofFirst⟩ := alike.transcript_run later
        have stillAlike := alike.run later
        rw [output, Player.redraws_of_playing unpaused] at ofHandled
        exact ⟨added, ofFirst, ofHandled, stillAlike.player_eq, stillAlike.outcome_eq⟩
      · have last := outcome_run_replicate follows ends playing (ticks.trans_lt several)
        rwa [ticks, ← (alike.run _).outcome_eq] at last
    · intro before quit after keys_eq asks
      obtain ⟨same, outcome⟩ := attend_quit first (pressed before) (pressed after) asks
      have atQuit : handled = first.attend (pressed before ++ [.key quit]) := by
        rw [handledAtOnce, keys_eq, ← same]
        exact congrArg first.attend List.map_append
      rw [ticks, ← atQuit] at outcome
      refine ⟨?_, outcome, ?_⟩
      · rw [atQuit, together [pressed (before ++ [quit])] (once _), List.flatten_singleton]
        change _ = first.attend ((before ++ [quit]).map .key)
        rw [List.map_append]
        rfl
      · apply run_of_ended
        rw [outcome]
        rfl
  case resized =>
    intro turns events size waiting resized canvas playback marks paused waitingGoing
    have waiting_eq : waiting = (session.run turns).turn events := run_concat session turns events
    have resized_eq : resized = (session.run turns).turn (events ++ [.resized size]) :=
      run_concat session turns _
    obtain ⟨player, outcome, output⟩ :
        resized.player = { waiting.player with terminal := size } ∧
          resized.outcome = none ∧
          resized.output.toList =
            waiting.output.toList ++ .eraseScreen :: resized.player.drawAll := by
      rw [waiting_eq] at paused waitingGoing ⊢
      rw [resized_eq]
      exact turn_resized paused waitingGoing
    have resizedFollows : resized.player.Follows schedule settings :=
      follows_run (follows_of_start started) _
    have samePlayback : resized.player.playback = playback := by rw [player]
    have stillPaused : resized.player.paused = true := by
      rw [player]
      exact paused
    refine ⟨player, outcome, ?_⟩
    rw [output, resizedFollows.drawAll_eq, samePlayback, stillPaused]

/-- A session that is paused for three turns with a bullet in flight, and then goes on to the end. -/
theorem input_leaves_playback_alone_in_three_turns :
    let bullet : BulletEvent := ⟨1, 0, 0, 0, 150⟩
    let schedule := ((Schedule.empty.insert 0 [bullet]).schedule.insert 2 []).schedule
    let space : Key := { code := .character ' ' }
    let turns := [[space], [{ code := .character 'x' }], [space]]
    ∃ session, start schedule {} ⟨80, 42⟩ = .ok session ∧
      (Playback.start schedule ({} : Settings).viewport).FinishesAfter 3 ∧
        let first := session.turn []
        let handled := session.run (turns.map fun keys => keys.map .key)
        handled.player.ticks = 1 ∧ handled.player.live = 1 ∧
          (handled.run [[], []]).outcome = some (.finished 3) ∧
          ∃ added,
            (first.run [[], []]).transcript = first.output.toList ++ added ∧
              (handled.run [[], []]).transcript =
                first.output.toList ++
                  (first.player.statusRedraw true ++ first.player.statusRedraw false) ++ added := by
  intro bullet schedule space turns
  have room : ({} : Settings).canvas.FitsIn ⟨80, 42⟩ := by decide
  have started := start_of_fitsIn schedule room
  have ends : (Playback.start schedule ({} : Settings).viewport).FinishesAfter 3 := by
    refine ⟨by decide +kernel, fun ticks finished => ?_⟩
    by_contra early
    have notYet :
        ∀ ticks < 3,
          ((Playback.start schedule ({} : Settings).viewport).afterSteps ticks).phase ≠
            .finished := by
      decide +kernel
    exact notYet ticks (Nat.lt_of_not_le early) finished
  refine ⟨_, started, ends, ?_⟩
  intro first handled
  have once : handled.player.ticks = 1 := by decide +kernel
  have inFlight : handled.player.live = 1 := by decide +kernel
  obtain ⟨goesOn, -⟩ := (input_leaves_playback_alone started ends (by decide)).2.1 turns once
  obtain ⟨alike, outcome⟩ := goesOn (by decide) (by decide)
  obtain ⟨added, ofFirst, ofHandled, -⟩ := alike [[], []]
  have toggles : turns.flatten.countP Key.togglesPause = 2 := by decide
  have drawn (player : Player) :
      ((List.range 2).flatMap fun earlier => player.statusRedraw (earlier % 2 == 0)) =
        player.statusRedraw true ++ player.statusRedraw false :=
    congrArg (player.statusRedraw true ++ ·) (List.append_nil _)
  rw [toggles, drawn] at ofHandled
  exact ⟨once, inFlight, outcome, added, ofFirst, ofHandled⟩

end Input

end Session

end Barrage
