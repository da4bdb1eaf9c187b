import Barrage.Proofs.Playback.Run

/-!
# What ticks show

A tick collects the projectiles that stay while it retires the others, and the
registry can be looked at again afterwards.  Both views are the same
(`Playback.lastShown_eq_entities`), also after the end, where a tick shows
nothing and the registry is empty.

Every projectile is registered under its own bullet, so the bullets that are
shown are the keys of the registry, in their order.  What a tick shows has
passed the test for the play area, and it comes from what was shown before or
from an event of the frame.
-/

namespace Barrage

/-! ## Bullets of a list of events -/

/-- Only a bullet with an event has a last event. -/
theorem exists_of_lastEvent?
    {events : List BulletEvent}
    {uid : Int}
    {event : BulletEvent}
    (last : lastEvent? events uid = some event) :
    event ∈ events ∧ event.uid = uid := by
  have member := List.mem_of_getLast? last
  simpa using List.mem_filter.mp member

/-! ## The view of a registry -/

namespace Registry

variable {registry : Registry}

theorem mem_snapshots_iff
    {viewport : Viewport}
    {entity : LiveEntity} :
    entity ∈ registry.snapshots viewport ↔
      ∃ uid projectile,
        registry.get? uid = some projectile ∧ projectile.snapshot viewport = entity := by
  simp only [snapshots, OrderedMap.values, List.map_map, List.mem_map, Prod.exists,
    OrderedMap.get?_eq_some_iff, Function.comp_apply]

/-- The bullets that are shown are those of the registry, in its order. -/
theorem uids_snapshots
    (keyed : registry.Keyed)
    (viewport : Viewport) :
    (registry.snapshots viewport).map (·.uid) = registry.keys := by
  rw [snapshots, OrderedMap.values, OrderedMap.keys, List.map_map, List.map_map]
  apply List.map_congr_left
  rintro ⟨uid, projectile⟩ member
  exact keyed uid projectile (OrderedMap.get?_eq_some_iff.mpr member)

end Registry

namespace Playback

/-! ## The view of playback -/

/-- What the latest of a number of ticks has shown, which is nothing before the first. -/
def lastShown (playback : Playback) : Nat → List LiveEntity
  | 0 => []
  | count + 1 => (playback.afterSteps count).step.tick.entities

section Run

variable
    (schedule : Schedule)
    (viewport : Viewport)

/-- What has been shown last is what the registry shows now. -/
theorem lastShown_eq_entities (count : Nat) :
    (start schedule viewport).lastShown count =
      ((start schedule viewport).afterSteps count).entities := by
  cases count with
  | zero => rfl
  | succ count => exact (reached_afterSteps schedule viewport count).entities_step

theorem uids_lastShown (count : Nat) :
    ((start schedule viewport).lastShown count).map (·.uid) =
      ((start schedule viewport).afterSteps count).registry.keys := by
  rw [lastShown_eq_entities]
  exact Registry.uids_snapshots (reached_afterSteps schedule viewport count).keyed _

theorem mem_lastShown_iff
    {count : Nat}
    {entity : LiveEntity} :
    entity ∈ (start schedule viewport).lastShown count ↔
      ∃ projectile,
        ((start schedule viewport).afterSteps count).registry.get? entity.uid =
            some projectile ∧
          projectile.snapshot viewport = entity := by
  have reached := reached_afterSteps schedule viewport count
  rw [lastShown_eq_entities, entities, Registry.mem_snapshots_iff, reached.viewport_eq]
  constructor
  · rintro ⟨uid, projectile, found, rfl⟩
    have own : projectile.uid = uid := reached.keyed uid projectile found
    exact ⟨projectile, by rwa [Projectile.uid_snapshot, own], rfl⟩
  · rintro ⟨projectile, found, shown⟩
    exact ⟨entity.uid, projectile, found, shown⟩

/-- What a tick shows has not left the play area. -/
theorem containsWithMargin_of_mem_lastShown
    {count : Nat}
    {entity : LiveEntity}
    (member : entity ∈ (start schedule viewport).lastShown count) :
    viewport.containsWithMargin entity.screen = true := by
  cases count with
  | zero => cases member
  | succ count =>
      obtain ⟨projectile, found, rfl⟩ := (mem_lastShown_iff schedule viewport).mp member
      rw [afterSteps_succ, (reached_afterSteps schedule viewport count).get?_step,
        Option.filter_eq_some_iff] at found
      exact found.2

/-- A bullet that a tick shows was shown before, or it has an event in the frame. -/
theorem shown_before_or_event
    {count : Nat}
    {entity : LiveEntity}
    (member : entity ∈ (start schedule viewport).lastShown (count + 1)) :
    (∃ earlier ∈ (start schedule viewport).lastShown count, earlier.uid = entity.uid) ∨
      ∃ event ∈
          (schedule.eventsAt ((start schedule viewport).afterSteps count).cursor).getD [],
        event.uid = entity.uid := by
  have reached := reached_afterSteps schedule viewport count
  by_cases finished : ((start schedule viewport).afterSteps count).phase = .finished
  · rw [lastShown, step_of_finished finished] at member
    cases member
  obtain ⟨projectile, found, -⟩ := (mem_lastShown_iff schedule viewport).mp member
  rw [afterSteps_succ, reached.get?_step, Option.filter_eq_some_iff, Option.map_eq_some_iff]
    at found
  obtain ⟨⟨before, source, -⟩, -⟩ := found
  rcases Option.or_eq_some_iff.mp source with fromEvent | ⟨-, inFlight⟩
  · obtain ⟨event, last, -⟩ := Option.map_eq_some_iff.mp fromEvent
    rw [reached.cursor_eq finished]
    exact .inr ⟨event, exists_of_lastEvent? last⟩
  · have own : before.uid = entity.uid := reached.keyed _ _ inFlight
    refine .inl ⟨before.snapshot viewport, ?_, own⟩
    refine (mem_lastShown_iff schedule viewport).mpr ⟨before, ?_, rfl⟩
    rwa [Projectile.uid_snapshot, own]

end Run

/--
After every tick, what the tick has shown, the registry and the view of it
agree.  The bullets that are shown are exactly the keys of the registry, in
strictly ascending order, and each is the bullet of the projectile found there.
All of them are in the play area, and each was shown by the tick before or has
an event in the frame that has been applied.
-/
theorem ticks_show_what_is_in_flight
    (schedule : Schedule)
    (viewport : Viewport)
    (count : Nat) :
    let before := (start schedule viewport).afterSteps count
    let after := (start schedule viewport).afterSteps (count + 1)
    let shown := before.step.tick.entities
    shown = after.entities ∧
      shown.map (·.uid) = after.registry.keys ∧
      (shown.map (·.uid)).Pairwise (· < ·) ∧
      shown.length = after.liveCount ∧
      (∀ uid projectile, after.registry.get? uid = some projectile → projectile.uid = uid) ∧
      (∀ entity ∈ shown, viewport.containsWithMargin entity.screen = true) ∧
      ∀ entity ∈ shown,
        (∃ earlier ∈ (start schedule viewport).lastShown count, earlier.uid = entity.uid) ∨
          ∃ event ∈ (schedule.eventsAt before.cursor).getD [], event.uid = entity.uid := by
  intro before after shown
  have agree : shown = after.entities := lastShown_eq_entities schedule viewport (count + 1)
  have uids : shown.map (·.uid) = after.registry.keys :=
    uids_lastShown schedule viewport (count + 1)
  refine ⟨agree, uids, ?ascending, ?number, ?own, ?inside, ?origin⟩
  case ascending =>
    rw [uids]
    exact after.registry.keys_ascending
  case number =>
    rw [agree]
    exact after.length_entities
  case own => exact (reached_afterSteps schedule viewport (count + 1)).keyed
  case inside =>
    intro entity (member : entity ∈ (start schedule viewport).lastShown (count + 1))
    exact containsWithMargin_of_mem_lastShown schedule viewport member
  case origin =>
    intro entity member
    exact shown_before_or_event schedule viewport member

end Playback

end Barrage
