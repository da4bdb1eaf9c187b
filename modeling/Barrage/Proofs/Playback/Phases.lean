import Barrage.Proofs.Playback.Run
import Mathlib.Order.Bounds.Basic

/-!
# Phases of playback

Playback runs while a scripted frame is left, drains while projectiles are in
flight after that, and is then finished.  The phase is kept with playback, but
it says no more than cursor and registry do (`Reached.phase_eq`).  So all that
is known of phases follows from the cursor, which moves with every tick up to
the end and stays there: after any number of ticks it is the lesser of this
number and the number of ticks that playback takes (`FinishesAfter`).
-/

namespace Barrage

/-- How far a phase is from the start of playback. -/
def Phase.rank : Phase → Nat
  | .running => 0
  | .draining => 1
  | .finished => 2

namespace Schedule

/-- Whether a frame is scripted, be it without events. -/
def IsScripted
    (schedule : Schedule)
    (frame : Nat) : Prop :=
  schedule.eventsAt frame ≠ none

theorem IsScripted.le_lastFrame
    {schedule : Schedule}
    {frame : Nat}
    (scripted : schedule.IsScripted frame) :
    frame ≤ schedule.lastFrame :=
  Nat.le_of_not_lt fun later => scripted (eventsAt_of_lastFrame_lt later)

/-- The last frame is the greatest scripted one, and zero stands in if there is none. -/
theorem isGreatest_lastFrame (schedule : Schedule) :
    IsGreatest {frame | frame = 0 ∨ schedule.IsScripted frame} schedule.lastFrame := by
  constructor
  · rw [Set.mem_ofPred_eq, lastFrame]
    cases isLast : schedule.frames.lastKey? with
    | none => exact .inl rfl
    | some last =>
        exact .inr (OrderedMap.mem_keys_iff.mp (OrderedMap.lastKey?_mem_keys isLast))
  · rintro frame (rfl | scripted)
    · exact Nat.zero_le _
    · exact scripted.le_lastFrame

end Schedule

namespace Playback

/-- This is the number of ticks that playback takes from here to its end. -/
def FinishesAfter
    (playback : Playback)
    (count : Nat) : Prop :=
  IsLeast {ticks | (playback.afterSteps ticks).phase = .finished} count

section Life

variable
    {schedule : Schedule}
    {viewport : Viewport}
    {count : Nat}
    {playback : Playback}

/-! ## The phase of a state -/

namespace Reached

theorem phase_eq_running_iff
    (reached : Reached schedule viewport count playback) :
    playback.phase = .running ↔ playback.cursor ≤ playback.lastFrame := by
  rw [reached.phase_eq, phaseAt]
  split
  next remaining => exact iff_of_true rfl remaining
  next past =>
    refine iff_of_false ?_ past
    split <;> exact Phase.noConfusion

theorem phase_eq_draining_iff
    (reached : Reached schedule viewport count playback) :
    playback.phase = .draining ↔
      playback.lastFrame < playback.cursor ∧ playback.registry.isEmpty = false := by
  rw [reached.phase_eq, phaseAt]
  split
  next remaining => exact iff_of_false Phase.noConfusion fun past => absurd remaining past.1.not_ge
  next past => cases playback.registry.isEmpty <;> simp [Nat.lt_of_not_le past]

theorem phase_eq_finished_iff
    (reached : Reached schedule viewport count playback) :
    playback.phase = .finished ↔
      playback.lastFrame < playback.cursor ∧ playback.registry.isEmpty = true := by
  rw [OrderedMap.isEmpty_iff_get?, ← phaseAt_eq_finished_iff, ← reached.phase_eq]

end Reached

/-! ## One tick -/

/-- A tick tells whether playback is over after it. -/
theorem finished_step_iff (playback : Playback) :
    playback.step.tick.finished = true ↔ playback.step.playback.phase = .finished := by
  by_cases finished : playback.phase = .finished
  · rw [step_of_finished finished]
    exact iff_of_true rfl finished
  · rw [step, if_neg finished]
    exact beq_iff_eq

theorem lastFrame_step (playback : Playback) :
    playback.step.playback.lastFrame = playback.lastFrame := by
  by_cases finished : playback.phase = .finished
  · rw [step_of_finished finished]
  · rw [step_of_not_finished finished]

theorem cursor_le_step (playback : Playback) :
    playback.cursor ≤ playback.step.playback.cursor := by
  by_cases finished : playback.phase = .finished
  · rw [step_of_finished finished]
  · rw [step_of_not_finished finished]
    exact Nat.le_succ _

/-- A tick never leads back to an earlier phase. -/
theorem Reached.rank_le_step
    (reached : Reached schedule viewport count playback) :
    playback.phase.rank ≤ playback.step.playback.phase.rank := by
  have later := reached.step
  cases phase : playback.phase with
  | running => exact Nat.zero_le _
  | draining =>
      have past := (reached.phase_eq_draining_iff.mp phase).1
      have notRunning : playback.step.playback.phase ≠ .running := by
        rw [Ne, later.phase_eq_running_iff, lastFrame_step]
        exact Nat.not_le.mpr (Nat.lt_of_lt_of_le past playback.cursor_le_step)
      cases nextPhase : playback.step.playback.phase with
      | running => exact absurd nextPhase notRunning
      | draining => exact Nat.le_refl 1
      | finished => exact Nat.le_succ 1
  | finished =>
      rw [step_of_finished phase, phase]

/-! ## The end -/

theorem afterSteps_of_finished
    {first : Nat}
    (finished : (playback.afterSteps first).phase = .finished)
    {later : Nat}
    (le : first ≤ later) :
    playback.afterSteps later = playback.afterSteps first := by
  induction later, le using Nat.le_induction with
  | base => rfl
  | succ later _ ih => rw [afterSteps_succ, ih, step_of_finished finished]

theorem FinishesAfter.phase_ne_finished
    {last : Nat}
    (ends : playback.FinishesAfter last)
    (before : count < last) :
    (playback.afterSteps count).phase ≠ .finished :=
  fun finished => absurd (ends.2 finished) (Nat.not_le.mpr before)

/-- Playback is over from the tick on with which it ends, and not before. -/
theorem FinishesAfter.phase_eq_finished_iff
    {last : Nat}
    (ends : playback.FinishesAfter last) :
    (playback.afterSteps count).phase = .finished ↔ last ≤ count := by
  constructor
  · intro finished
    exact ends.2 finished
  · intro late
    rw [afterSteps_of_finished ends.1 late]
    exact ends.1

end Life

/-! ## Runs -/

section Run

variable
    (schedule : Schedule)
    (viewport : Viewport)

theorem cursor_afterSteps
    {count : Nat}
    (notFinished : ((start schedule viewport).afterSteps count).phase ≠ .finished) :
    ((start schedule viewport).afterSteps count).cursor = count :=
  (reached_afterSteps schedule viewport count).cursor_eq notFinished

/-- The cursor stays where it was when playback ended. -/
theorem cursor_afterSteps_eq_min
    {last : Nat}
    (ends : (start schedule viewport).FinishesAfter last)
    (count : Nat) :
    ((start schedule viewport).afterSteps count).cursor = min count last := by
  rcases Nat.lt_or_ge count last with before | late
  · rw [cursor_afterSteps schedule viewport (ends.phase_ne_finished before),
      Nat.min_eq_left (Nat.le_of_lt before)]
  · rw [afterSteps_of_finished ends.1 late, Nat.min_eq_right late]
    cases last with
    | zero => rfl
    | succ before =>
        have notFinished := ends.phase_ne_finished (Nat.lt_succ_self before)
        rw [afterSteps_succ, step_of_not_finished notFinished,
          cursor_afterSteps schedule viewport notFinished]

theorem rank_afterSteps_mono
    {earlier later : Nat}
    (le : earlier ≤ later) :
    ((start schedule viewport).afterSteps earlier).phase.rank ≤
      ((start schedule viewport).afterSteps later).phase.rank := by
  induction later, le using Nat.le_induction with
  | base => exact Nat.le_refl _
  | succ later _ ih =>
      exact Nat.le_trans ih (reached_afterSteps schedule viewport later).rank_le_step

/-- When playback is over, one of its ticks has applied each scripted frame. -/
theorem exists_tick_of_isScripted
    {count : Nat}
    (finished : ((start schedule viewport).afterSteps (count + 1)).phase = .finished)
    {frame : Nat}
    (scripted : schedule.IsScripted frame) :
    ∃ earlier ≤ count,
      ((start schedule viewport).afterSteps earlier).phase ≠ .finished ∧
        ((start schedule viewport).afterSteps earlier).cursor = frame := by
  have reached := reached_afterSteps schedule viewport
  have inRange := scripted.le_lastFrame
  have past := ((reached (count + 1)).phase_eq_finished_iff.mp finished).1
  have soon := (reached (count + 1)).cursor_le
  rw [(reached (count + 1)).lastFrame_eq] at past
  have notFinished : ((start schedule viewport).afterSteps frame).phase ≠ .finished := by
    intro ended
    have pastFrame := ((reached frame).phase_eq_finished_iff.mp ended).1
    have slow := (reached frame).cursor_le
    rw [(reached frame).lastFrame_eq] at pastFrame
    omega
  exact ⟨frame, by omega, notFinished, cursor_afterSteps schedule viewport notFinished⟩

end Run

/--
The phases of playback, after any number of ticks.  Each phase is a condition
on cursor and registry, phases come in their order, and the cursor counts the
ticks up to the end.  A tick reports the end exactly if playback is over after
it, and then nothing is in flight and every scripted frame has been applied.
After the end a tick changes and shows nothing.
-/
theorem phases_of_playback
    (schedule : Schedule)
    (viewport : Viewport) :
    let reached := (start schedule viewport).afterSteps
    (∀ count,
      ((reached count).phase = .running ↔ (reached count).cursor ≤ (reached count).lastFrame) ∧
        ((reached count).phase = .draining ↔
          (reached count).lastFrame < (reached count).cursor ∧
            (reached count).registry.isEmpty = false) ∧
        ((reached count).phase = .finished ↔
          (reached count).lastFrame < (reached count).cursor ∧
            (reached count).registry.isEmpty = true)) ∧
      (∀ count,
        IsGreatest {frame | frame = 0 ∨ schedule.IsScripted frame} (reached count).lastFrame) ∧
      (∀ earlier later, earlier ≤ later →
        (reached earlier).phase.rank ≤ (reached later).phase.rank) ∧
      (∀ count last, (start schedule viewport).FinishesAfter last →
        (reached count).cursor = min count last) ∧
      (∀ count, (∀ ticks, (reached ticks).phase ≠ .finished) → (reached count).cursor = count) ∧
      (∀ count,
        (reached count).step.tick.finished = true ↔ (reached (count + 1)).phase = .finished) ∧
      (∀ count, (reached count).phase = .finished →
        (reached count).step.playback = reached count ∧
          (reached count).step.tick.entities = []) ∧
      (∀ count, (reached count).step.tick.finished = true →
        (reached (count + 1)).liveCount = 0 ∧
          ∀ frame, schedule.IsScripted frame →
            ∃ earlier ≤ count,
              (reached earlier).phase ≠ .finished ∧ (reached earlier).cursor = frame) := by
  intro reached
  have invariant := reached_afterSteps schedule viewport
  refine ⟨?phases, ?lastFrame, ?order, ?cursor, ?endless, ?report, ?after, ?applied⟩
  case phases =>
    intro count
    exact
      ⟨(invariant count).phase_eq_running_iff, (invariant count).phase_eq_draining_iff,
        (invariant count).phase_eq_finished_iff⟩
  case lastFrame =>
    intro count
    rw [(invariant count).lastFrame_eq]
    exact schedule.isGreatest_lastFrame
  case order =>
    intro earlier later le
    exact rank_afterSteps_mono schedule viewport le
  case cursor =>
    intro count last ends
    exact cursor_afterSteps_eq_min schedule viewport ends count
  case endless =>
    intro count never
    exact cursor_afterSteps schedule viewport (never count)
  case report =>
    intro count
    exact finished_step_iff (reached count)
  case after =>
    intro count finished
    rw [step_of_finished finished]
    exact ⟨rfl, rfl⟩
  case applied =>
    intro count reported
    have finished : (reached (count + 1)).phase = .finished :=
      (finished_step_iff (reached count)).mp reported
    refine ⟨?_, fun frame scripted => exists_tick_of_isScripted schedule viewport finished scripted⟩
    rw [← length_entities, (invariant (count + 1)).entities_of_finished finished]
    rfl

end Playback

end Barrage
