import Barrage.Proofs.Number.Finite
import Barrage.Proofs.Playback.Phases
import Barrage.Proofs.Playback.Showing
import Barrage.Proofs.Playback.Trajectory

/-!
# Finite places

A coordinate of a bullet may be infinite or no number, be it in the document
or because the bullet is fast enough.  The test for the play area is a
comparison with its borders.  No infinite place is between finite borders, so
such a bullet is gone with the next tick.

The borders are calculated from the size of the viewport and the radius of a
bullet, and this can overflow (`Viewport.IsBounded` says that it does not).
Then the play area has an infinite border, and a bullet that is infinitely far
away stays in flight forever (`infinite_bullet_stays_in_unbounded_viewport`).
-/

namespace Barrage

open Barrage.Number

/-! ## Borders -/

/-- The borders of the play area are finite numbers. -/
structure Viewport.IsBounded (viewport : Viewport) : Prop where
  low : (-viewport.margin).isFinite = true
  right : (viewport.width + viewport.margin).isFinite = true
  bottom : (viewport.height + viewport.margin).isFinite = true

/-- A bullet is shown at a finite place, in the plane and on the screen. -/
structure LiveEntity.IsFinite (entity : LiveEntity) : Prop where
  x : entity.x.isFinite = true
  y : entity.y.isFinite = true
  screenX : entity.screen.x.isFinite = true
  screenY : entity.screen.y.isFinite = true

theorem Viewport.containsWithMargin_iff
    {viewport : Viewport}
    {point : ScreenPoint} :
    viewport.containsWithMargin point = true ↔
      (-viewport.margin ≤ point.x ∧ point.x ≤ viewport.width + viewport.margin) ∧
        -viewport.margin ≤ point.y ∧ point.y ≤ viewport.height + viewport.margin := by
  simp only [containsWithMargin, Bool.and_eq_true, decide_eq_true_eq]

theorem Projectile.isFinite_of_isInside
    {viewport : Viewport}
    (bounded : viewport.IsBounded)
    {projectile : Projectile}
    (inside : projectile.isInside viewport = true) :
    (projectile.snapshot viewport).IsFinite := by
  obtain ⟨⟨left, right⟩, top, bottom⟩ := Viewport.containsWithMargin_iff.mp inside
  have screenX := isFinite_of_le_of_le bounded.low bounded.right left right
  have screenY := isFinite_of_le_of_le bounded.low bounded.bottom top bottom
  exact
    { x := isFinite_of_add screenX
      y := isFinite_of_sub screenY
      screenX := screenX
      screenY := screenY }

/-- A bullet that moving does not change is where its event puts it. -/
theorem BulletEvent.flown_of_rests
    {event : BulletEvent}
    (rests : (Projectile.ofEvent event).advance 1 = .ofEvent event)
    (time : Nat) :
    event.flown time = .ofEvent event := by
  induction time with
  | zero => rfl
  | succ time ih => rw [flown, ih, rests]

namespace Playback

/-- A bullet that rests in the play area is shown by every tick, and playback does not end. -/
theorem stays_of_rests
    (schedule : Schedule)
    (viewport : Viewport)
    {event : BulletEvent}
    (rests : (Projectile.ofEvent event).advance 1 = .ofEvent event)
    (inside : (Projectile.ofEvent event).isInside viewport = true)
    (frame : Nat)
    (newest : schedule.newest? event.uid frame = some event)
    (last : ∀ later, frame < later → schedule.newest? event.uid later = none)
    (time : Nat) :
    (Projectile.ofEvent event).snapshot viewport ∈
        (start schedule viewport).lastShown (frame + time + 1) ∧
      ((start schedule viewport).afterSteps (frame + time + 1)).phase ≠ .finished := by
  have inFlight :
      ((start schedule viewport).afterSteps (frame + time + 1)).registry.get? event.uid =
        some (.ofEvent event) := by
    refine
      (get?_afterSteps_of_newest schedule viewport event.uid newest time
        (fun later after _ => last later after) _).mpr ⟨?_, event.flown_of_rests rests _⟩
    intro elapsed _ _
    rwa [event.flown_of_rests rests]
  constructor
  · exact (mem_lastShown_iff schedule viewport).mpr ⟨_, inFlight, rfl⟩
  · intro finished
    have nothing :=
      ((reached_afterSteps schedule viewport _).phase_eq_finished_iff.mp finished).2
    rw [OrderedMap.isEmpty_iff_get?] at nothing
    rw [nothing] at inFlight
    cases inFlight

section Run

variable
    (schedule : Schedule)
    {viewport : Viewport}
    (bounded : viewport.IsBounded)

include bounded

theorem isFinite_of_get?_afterSteps
    {count : Nat}
    {uid : Int}
    {projectile : Projectile}
    (inFlight :
      ((start schedule viewport).afterSteps count).registry.get? uid = some projectile) :
    (projectile.snapshot viewport).IsFinite := by
  cases count with
  | zero => cases inFlight
  | succ count =>
      rw [afterSteps_succ, (reached_afterSteps schedule viewport count).get?_step,
        Option.filter_eq_some_iff] at inFlight
      exact Projectile.isFinite_of_isInside bounded inFlight.2

theorem isFinite_of_mem_lastShown
    {count : Nat}
    {entity : LiveEntity}
    (member : entity ∈ (start schedule viewport).lastShown count) :
    entity.IsFinite := by
  obtain ⟨projectile, inFlight, rfl⟩ := (mem_lastShown_iff schedule viewport).mp member
  exact isFinite_of_get?_afterSteps schedule bounded inFlight

/-- What a tick moves to an infinite place is not in flight after it. -/
theorem get?_step_of_not_isFinite
    {count : Nat}
    {uid : Int}
    {projectile : Projectile}
    (source :
      ((schedule.newest? uid count).map Projectile.ofEvent).or
          (((start schedule viewport).afterSteps count).registry.get? uid) =
        some projectile)
    (infinite : ¬ ((projectile.advance 1).snapshot viewport).IsFinite) :
    ((start schedule viewport).afterSteps (count + 1)).registry.get? uid = none := by
  rw [afterSteps_succ, (reached_afterSteps schedule viewport count).get?_step, source,
    Option.map_some, Option.filter_some, if_neg]
  intro inside
  exact infinite (Projectile.isFinite_of_isInside bounded inside)

/-- Only a bullet at a finite place keeps playback from its end. -/
theorem phase_eq_finished_iff_isFinite (count : Nat) :
    let playback := (start schedule viewport).afterSteps count
    playback.phase = .finished ↔
      playback.lastFrame < playback.cursor ∧
        ¬ ∃ entity ∈ playback.entities, entity.IsFinite := by
  intro playback
  rw [(reached_afterSteps schedule viewport count).phase_eq_finished_iff]
  refine and_congr_right fun _ => ?_
  have shown : playback.entities = [] ↔ playback.registry.isEmpty = true := by
    rw [entities, Registry.snapshots, List.map_eq_nil_iff, OrderedMap.values,
      List.map_eq_nil_iff, OrderedMap.isEmpty, List.isEmpty_iff]
  rw [← shown, List.eq_nil_iff_forall_not_mem]
  constructor
  · rintro nothing ⟨entity, member, -⟩
    exact nothing entity member
  · intro noneFinite entity member
    refine noneFinite ⟨entity, member, ?_⟩
    rw [← lastShown_eq_entities] at member
    exact isFinite_of_mem_lastShown schedule bounded member

end Run

/--
Places are finite in a viewport whose borders are.  Whatever the schedule, a
tick shows no bullet elsewhere, and none is left in flight.  A bullet that
moves to an infinite place is retired by the same tick, so past the last frame
playback goes on only for the sake of bullets at finite places.
-/
theorem infinite_bullets_are_retired
    (schedule : Schedule)
    (viewport : Viewport)
    (bounded : viewport.IsBounded)
    (count : Nat) :
    let before := (start schedule viewport).afterSteps count
    let after := (start schedule viewport).afterSteps (count + 1)
    (∀ entity ∈ before.step.tick.entities, entity.IsFinite) ∧
      (∀ entity ∈ after.entities, entity.IsFinite) ∧
      (∀ uid projectile,
        ((schedule.newest? uid count).map Projectile.ofEvent).or (before.registry.get? uid) =
            some projectile →
          ¬ ((projectile.advance 1).snapshot viewport).IsFinite →
            after.registry.get? uid = none) ∧
      (after.phase = .finished ↔
        after.lastFrame < after.cursor ∧ ¬ ∃ entity ∈ after.entities, entity.IsFinite) := by
  intro before after
  refine ⟨?shown, ?left, ?retired, ?finished⟩
  case shown =>
    intro entity (member : entity ∈ (start schedule viewport).lastShown (count + 1))
    exact isFinite_of_mem_lastShown schedule bounded member
  case left =>
    intro entity member
    rw [← lastShown_eq_entities] at member
    exact isFinite_of_mem_lastShown schedule bounded member
  case retired =>
    intro uid projectile source infinite
    exact get?_step_of_not_isFinite schedule bounded source infinite
  case finished => exact phase_eq_finished_iff_isFinite schedule bounded (count + 1)

/-- In the default viewport a bullet of infinite speed is gone at once, and a slow one is shown. -/
theorem infinite_bullets_are_retired_in_default_viewport :
    let schedule : Schedule :=
      ⟨OrderedMap.empty.insert 0 [⟨1, 0, 0, 0, 1 / 0⟩, ⟨2, 0, 0, 0, 1⟩]⟩
    let shown := ((start schedule {}).afterSteps 0).step.tick.entities
    Viewport.IsBounded {} ∧ shown.map (·.uid) = [2] ∧ ∀ entity ∈ shown, entity.IsFinite := by
  intro schedule shown
  have bounded : Viewport.IsBounded {} :=
    ⟨by decide +kernel, by decide +kernel, by decide +kernel⟩
  have finite := infinite_bullets_are_retired schedule {} bounded 0
  exact ⟨bounded, by decide +kernel, finite.1⟩

/--
The sizes of a viewport may be finite and its borders not.  A bullet that is
placed infinitely far away is then shown by every tick, and playback has no end.
-/
theorem infinite_bullet_stays_in_unbounded_viewport :
    let viewport : Viewport := { bulletRadius := 1e308 }
    let event : BulletEvent := ⟨1, 1 / 0, 0, 0, 0⟩
    let playback := start ⟨OrderedMap.empty.insert 0 [event]⟩ viewport
    (viewport.width.isFinite = true ∧
        viewport.height.isFinite = true ∧ viewport.bulletRadius.isFinite = true) ∧
      ∀ count,
        (Projectile.ofEvent event).snapshot viewport ∈
            (playback.afterSteps count).step.tick.entities ∧
          ¬ ((Projectile.ofEvent event).snapshot viewport).IsFinite ∧
          (playback.afterSteps (count + 1)).phase ≠ .finished := by
  intro viewport event playback
  refine ⟨⟨by decide +kernel, by decide +kernel, by decide +kernel⟩, ?_⟩
  have rests : (Projectile.ofEvent event).advance 1 = .ofEvent event := by decide +kernel
  have inside : (Projectile.ofEvent event).isInside viewport = true := by decide +kernel
  have infinite : event.x.isFinite = false := by decide +kernel
  intro count
  obtain ⟨shown, notFinished⟩ :=
    stays_of_rests ⟨OrderedMap.empty.insert 0 [event]⟩ viewport rests inside 0 rfl
      (fun later after => Schedule.newest?_of_lastFrame_lt after _) count
  rw [Nat.zero_add] at shown notFinished
  refine ⟨shown, ?_, notFinished⟩
  intro finite
  exact absurd finite.x (ne_true_of_eq_false infinite)

end Playback

end Barrage
