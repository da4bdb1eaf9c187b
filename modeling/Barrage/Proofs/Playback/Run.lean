import Barrage.Playback.Basic
import Barrage.Proofs.OrderedMap
import Barrage.Proofs.Traversal

/-!
# Runs of playback

What one tick does to a single bullet, and what holds after any number of
ticks.  A tick treats every bullet on its own: the last event for it in the
frame sets it anew, and then it moves and stays or leaves.  This also holds of
a tick after the end, which changes nothing, because by then no bullet is left
and no frame is scripted any more.

`Reached` is the invariant of a run.
-/

namespace Barrage

open Barrage.Traversal

/-! ## The last event for a bullet -/

/-- The last event for a bullet in a list of events. -/
def lastEvent?
    (events : List BulletEvent)
    (uid : Int) : Option BulletEvent :=
  (events.filter (·.uid = uid)).getLast?

theorem lastEvent?_cons
    (event : BulletEvent)
    (rest : List BulletEvent)
    (uid : Int) :
    lastEvent? (event :: rest) uid =
      (lastEvent? rest uid).or (if event.uid = uid then some event else none) := by
  rw [lastEvent?, getLast?_filter_cons]
  simp [lastEvent?]

namespace Schedule

/-- The last event for a bullet in a frame. -/
def newest?
    (schedule : Schedule)
    (uid : Int)
    (frame : Nat) : Option BulletEvent :=
  lastEvent? ((schedule.eventsAt frame).getD []) uid

theorem eventsAt_of_lastFrame_lt
    {schedule : Schedule}
    {frame : Nat}
    (later : schedule.lastFrame < frame) :
    schedule.eventsAt frame = none := by
  rw [eventsAt]
  refine Decidable.not_not.mp fun scripted => ?_
  rw [← Ne, ← OrderedMap.mem_keys_iff] at scripted
  cases isLast : schedule.frames.lastKey? with
  | none =>
      rw [OrderedMap.lastKey?_eq_getLast?, List.getLast?_eq_none_iff] at isLast
      rw [isLast] at scripted
      cases scripted
  | some last =>
      refine OrderedMap.not_lastKey?_lt isLast scripted ?_
      rwa [lastFrame, isLast] at later

theorem newest?_of_lastFrame_lt
    {schedule : Schedule}
    {frame : Nat}
    (later : schedule.lastFrame < frame)
    (uid : Int) :
    schedule.newest? uid frame = none := by
  rw [newest?, eventsAt_of_lastFrame_lt later]
  rfl

end Schedule

namespace Registry

/-- Every projectile is registered under its own bullet. -/
def Keyed (registry : Registry) : Prop :=
  ∀ uid projectile, registry.get? uid = some projectile → projectile.uid = uid

theorem get?_apply
    {registry : Registry}
    (keyed : registry.Keyed)
    (frame : Nat)
    (event : BulletEvent)
    (uid : Int) :
    (registry.apply frame event).1.get? uid =
      if uid = event.uid then some (.ofEvent event) else registry.get? uid := by
  rw [apply]
  split
  next absent => rw [OrderedMap.get?_insert]
  next projectile present =>
    rw [OrderedMap.get?_insert,
      Projectile.overwrite_eq_ofEvent projectile event (keyed event.uid projectile present)]

theorem keyed_apply
    {registry : Registry}
    (keyed : registry.Keyed)
    (frame : Nat)
    (event : BulletEvent) :
    (registry.apply frame event).1.Keyed := by
  intro uid projectile found
  rw [get?_apply keyed] at found
  split at found
  next same =>
    cases found
    exact same.symm
  next => exact keyed uid projectile found

theorem applyAll_cons
    (frame : Nat)
    (registry : Registry)
    (event : BulletEvent)
    (rest : List BulletEvent) :
    (registry.applyAll frame (event :: rest)).1 =
      ((registry.apply frame event).1.applyAll frame rest).1 := rfl

theorem keyed_applyAll
    {registry : Registry}
    (keyed : registry.Keyed)
    (frame : Nat)
    (events : List BulletEvent) :
    (registry.applyAll frame events).1.Keyed := by
  induction events generalizing registry with
  | nil => exact keyed
  | cons event rest ih =>
      rw [applyAll_cons]
      exact ih (keyed_apply keyed frame event)

/-- Of the events of a frame only the last one for a bullet matters to it. -/
theorem get?_applyAll
    {registry : Registry}
    (keyed : registry.Keyed)
    (frame : Nat)
    (events : List BulletEvent)
    (uid : Int) :
    (registry.applyAll frame events).1.get? uid =
      ((lastEvent? events uid).map .ofEvent).or (registry.get? uid) := by
  induction events generalizing registry with
  | nil => rfl
  | cons event rest ih =>
      rw [applyAll_cons, ih (keyed_apply keyed frame event), get?_apply keyed, lastEvent?_cons,
        Option.map_or, Option.or_assoc]
      by_cases same : event.uid = uid
      · simp [same]
      · simp [same, Ne.symm same]

theorem get?_advance
    (registry : Registry)
    (uid : Int) :
    registry.advance.get? uid = (registry.get? uid).map (·.advance 1) :=
  OrderedMap.get?_mapValues registry _ uid

theorem keyed_advance
    {registry : Registry}
    (keyed : registry.Keyed) :
    registry.advance.Keyed := by
  intro uid projectile found
  rw [get?_advance, Option.map_eq_some_iff] at found
  obtain ⟨before, present, rfl⟩ := found
  exact keyed uid before present

theorem get?_inside
    (registry : Registry)
    (viewport : Viewport)
    (uid : Int) :
    (registry.inside viewport).get? uid = (registry.get? uid).filter (·.isInside viewport) :=
  OrderedMap.get?_filterValues registry _ uid

theorem keyed_inside
    {registry : Registry}
    (keyed : registry.Keyed)
    (viewport : Viewport) :
    (registry.inside viewport).Keyed := by
  intro uid projectile found
  rw [get?_inside, Option.filter_eq_some_iff] at found
  exact keyed uid projectile found.1

end Registry

namespace Playback

/-! ## One tick -/

/-- The projectiles in flight after a tick, as long as playback is not over. -/
def nextRegistry (playback : Playback) : Registry :=
  let events := (playback.schedule.eventsAt playback.cursor).getD []
  (playback.registry.applyAll playback.cursor events).1.advance.inside playback.viewport

/-- Before the end, a tick moves the cursor and keeps schedule, viewport and last frame. -/
theorem step_of_not_finished
    {playback : Playback}
    (notFinished : playback.phase ≠ .finished) :
    playback.step.playback =
      { playback with
        registry := playback.nextRegistry
        cursor := playback.cursor + 1
        phase := playback.phaseAt playback.nextRegistry (playback.cursor + 1) } := by
  rw [step, if_neg notFinished]
  rfl

theorem get?_nextRegistry
    {playback : Playback}
    (keyed : playback.registry.Keyed)
    (uid : Int) :
    playback.nextRegistry.get? uid =
      ((((playback.schedule.newest? uid playback.cursor).map Projectile.ofEvent).or
            (playback.registry.get? uid)).map
          (·.advance 1)).filter
        (·.isInside playback.viewport) := by
  rw [nextRegistry, Registry.get?_inside, Registry.get?_advance, Registry.get?_applyAll keyed]
  rfl

theorem keyed_nextRegistry
    {playback : Playback}
    (keyed : playback.registry.Keyed) :
    playback.nextRegistry.Keyed :=
  Registry.keyed_inside (Registry.keyed_advance (Registry.keyed_applyAll keyed _ _)) _

theorem phaseAt_eq_finished_iff
    {playback : Playback}
    {registry : Registry}
    {cursor : Nat} :
    playback.phaseAt registry cursor = .finished ↔
      playback.lastFrame < cursor ∧ ∀ uid, registry.get? uid = none := by
  rw [phaseAt, ← OrderedMap.isEmpty_iff_get?]
  by_cases remaining : cursor ≤ playback.lastFrame
  · rw [if_pos remaining]
    constructor
    · intro impossible
      cases impossible
    · rintro ⟨past, -⟩
      exact absurd remaining (Nat.not_le.mpr past)
  · rw [if_neg remaining]
    have past := Nat.lt_of_not_le remaining
    by_cases isEmpty : registry.isEmpty <;> simp [past, isEmpty]

/-! ## Any number of ticks -/

/-- What holds of playback after a number of ticks from its start. -/
structure Reached
    (schedule : Schedule)
    (viewport : Viewport)
    (count : Nat)
    (playback : Playback) : Prop where
  schedule_eq : playback.schedule = schedule
  viewport_eq : playback.viewport = viewport
  lastFrame_eq : playback.lastFrame = schedule.lastFrame
  keyed : playback.registry.Keyed
  /-- The phase is what registry and cursor make of it. -/
  phase_eq : playback.phase = playback.phaseAt playback.registry playback.cursor
  cursor_le : playback.cursor ≤ count
  /-- Until the end, every tick moves the cursor. -/
  cursor_eq : playback.phase ≠ .finished → playback.cursor = count

theorem Reached.start
    (schedule : Schedule)
    (viewport : Viewport) :
    Reached schedule viewport 0 (Playback.start schedule viewport) where
  schedule_eq := rfl
  viewport_eq := rfl
  lastFrame_eq := rfl
  keyed := by
    intro uid projectile found
    cases found
  phase_eq := (if_pos (Nat.zero_le _)).symm
  cursor_le := Nat.le_refl 0
  cursor_eq := fun _ => rfl

theorem Reached.step
    {schedule : Schedule}
    {viewport : Viewport}
    {count : Nat}
    {playback : Playback}
    (reached : Reached schedule viewport count playback) :
    Reached schedule viewport (count + 1) playback.step.playback := by
  by_cases finished : playback.phase = .finished
  · rw [step_of_finished finished]
    exact
      { reached with
        cursor_le := Nat.le_succ_of_le reached.cursor_le
        cursor_eq := fun notFinished => absurd finished notFinished }
  · rw [step_of_not_finished finished]
    have cursor := reached.cursor_eq finished
    exact
      { schedule_eq := reached.schedule_eq
        viewport_eq := reached.viewport_eq
        lastFrame_eq := reached.lastFrame_eq
        keyed := keyed_nextRegistry reached.keyed
        phase_eq := rfl
        cursor_le := by simp [cursor]
        cursor_eq := fun _ => by simp [cursor] }

theorem reached_afterSteps
    (schedule : Schedule)
    (viewport : Viewport)
    (count : Nat) :
    Reached schedule viewport count ((Playback.start schedule viewport).afterSteps count) := by
  induction count with
  | zero => exact .start schedule viewport
  | succ count ih => exact ih.step

/--
What a tick does to one bullet, before the end and after it: the last event
for it in the frame replaces what was in flight, then it moves, and it is kept
if it is still in the play area.
-/
theorem Reached.get?_step
    {schedule : Schedule}
    {viewport : Viewport}
    {count : Nat}
    {playback : Playback}
    (reached : Reached schedule viewport count playback)
    (uid : Int) :
    playback.step.playback.registry.get? uid =
      ((((schedule.newest? uid count).map Projectile.ofEvent).or
            (playback.registry.get? uid)).map
          (·.advance 1)).filter
        (·.isInside viewport) := by
  by_cases finished : playback.phase = .finished
  · have ended := finished
    rw [reached.phase_eq, phaseAt_eq_finished_iff] at ended
    obtain ⟨past, noBullet⟩ := ended
    have later : schedule.lastFrame < count := by
      rw [← reached.lastFrame_eq]
      exact Nat.lt_of_lt_of_le past reached.cursor_le
    rw [step_of_finished finished, Schedule.newest?_of_lastFrame_lt later, noBullet]
    rfl
  · rw [step_of_not_finished finished, get?_nextRegistry reached.keyed, reached.schedule_eq,
      reached.viewport_eq, reached.cursor_eq finished]

/-! ## What a tick shows -/

theorem length_entities
    (playback : Playback) :
    playback.entities.length = playback.liveCount := by
  rw [entities, Registry.snapshots, List.length_map, OrderedMap.values, List.length_map]
  rfl

/-- At the end no projectile is in flight. -/
theorem Reached.entities_of_finished
    {schedule : Schedule}
    {viewport : Viewport}
    {count : Nat}
    {playback : Playback}
    (reached : Reached schedule viewport count playback)
    (finished : playback.phase = .finished) :
    playback.entities = [] := by
  rw [reached.phase_eq, phaseAt_eq_finished_iff, ← OrderedMap.isEmpty_iff_get?] at finished
  have noEntry : playback.registry.entries = [] := List.isEmpty_iff.mp finished.2
  rw [entities, Registry.snapshots, OrderedMap.values, noEntry]
  rfl

/-- A tick shows the projectiles that are in flight after it. -/
theorem Reached.entities_step
    {schedule : Schedule}
    {viewport : Viewport}
    {count : Nat}
    {playback : Playback}
    (reached : Reached schedule viewport count playback) :
    playback.step.tick.entities = playback.step.playback.entities := by
  by_cases finished : playback.phase = .finished
  · rw [step_of_finished finished]
    exact (reached.entities_of_finished finished).symm
  · rw [Playback.step, if_neg finished]
    rfl

end Playback

end Barrage
