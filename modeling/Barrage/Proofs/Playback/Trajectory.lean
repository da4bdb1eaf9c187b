import Barrage.Proofs.Playback.Run
import Mathlib.Order.Bounds.Defs

/-!
# Trajectories

What becomes of a bullet, said without playback: it starts where the last
event for it puts it, moves by one unit of time after the other, and is gone
as soon as it is outside of the play area.  Playback shows every bullet on
this trajectory, whatever happened to the bullet before the event and whatever
happens to other bullets.
-/

namespace Barrage

/-- The projectile of an event after some units of time. -/
def BulletEvent.flown (event : BulletEvent) : Nat → Projectile
  | 0 => .ofEvent event
  | time + 1 => (event.flown time).advance 1

/-- Whether there is an event for a bullet in a frame. -/
def Schedule.Mentions
    (schedule : Schedule)
    (uid : Int)
    (frame : Nat) : Prop :=
  ∃ events, schedule.eventsAt frame = some events ∧ ∃ event ∈ events, event.uid = uid

/-- The last event for a bullet up to a frame: in the last frame with one, the last of the list. -/
def Schedule.IsLatest
    (schedule : Schedule)
    (uid : Int)
    (count : Nat)
    (frame : Nat)
    (event : BulletEvent) : Prop :=
  IsGreatest {frame | frame ≤ count ∧ schedule.Mentions uid frame} frame ∧
    ∃ events,
      schedule.eventsAt frame = some events ∧
        (events.filter (·.uid = uid)).getLast? = some event

theorem Schedule.newest?_eq_none_iff
    {schedule : Schedule}
    {uid : Int}
    {frame : Nat} :
    schedule.newest? uid frame = none ↔ ¬ schedule.Mentions uid frame := by
  rw [newest?, lastEvent?, Mentions]
  cases schedule.eventsAt frame <;> simp

theorem Schedule.IsLatest.newest?_eq_some
    {schedule : Schedule}
    {uid : Int}
    {count frame : Nat}
    {event : BulletEvent}
    (latest : schedule.IsLatest uid count frame event) :
    schedule.newest? uid frame = some event := by
  obtain ⟨-, events, scripted, last⟩ := latest
  rw [newest?, scripted]
  exact last

theorem Schedule.IsLatest.newest?_later
    {schedule : Schedule}
    {uid : Int}
    {count frame : Nat}
    {event : BulletEvent}
    (latest : schedule.IsLatest uid count frame event)
    {later : Nat}
    (after : frame < later)
    (early : later ≤ count) :
    schedule.newest? uid later = none := by
  rw [newest?_eq_none_iff]
  intro mentions
  have upper : later ≤ frame := latest.1.2 ⟨early, mentions⟩
  omega

namespace Playback

section Flight

variable
    (schedule : Schedule)
    (viewport : Viewport)
    (uid : Int)

/-- A bullet without an event is never in flight. -/
theorem get?_afterSteps_of_unmentioned
    (count : Nat)
    (unmentioned : ∀ frame < count, schedule.newest? uid frame = none) :
    ((Playback.start schedule viewport).afterSteps count).registry.get? uid = none := by
  induction count with
  | zero => rfl
  | succ count ih =>
      have before := ih fun frame early => unmentioned frame (Nat.lt_succ_of_lt early)
      rw [afterSteps_succ, (reached_afterSteps schedule viewport count).get?_step uid,
        unmentioned count (Nat.lt_succ_self count), before]
      rfl

/--
After its last event a bullet is in flight exactly as long as it has always
been in the play area, and then it is on the trajectory of this event.
-/
theorem get?_afterSteps_of_newest
    {frame : Nat}
    {event : BulletEvent}
    (newest : schedule.newest? uid frame = some event)
    (time : Nat)
    (last : ∀ later, frame < later → later ≤ frame + time → schedule.newest? uid later = none)
    (projectile : Projectile) :
    ((Playback.start schedule viewport).afterSteps (frame + time + 1)).registry.get? uid =
        some projectile ↔
      (∀ elapsed, 1 ≤ elapsed → elapsed ≤ time + 1 →
          (event.flown elapsed).isInside viewport) ∧
        event.flown (time + 1) = projectile := by
  induction time generalizing projectile with
  | zero =>
      rw [afterSteps_succ, (reached_afterSteps schedule viewport frame).get?_step uid, newest,
        Option.map_some, Option.some_or, Option.map_some, Option.filter_eq_some_iff,
        Option.some.injEq]
      constructor
      · rintro ⟨rfl, inside⟩
        refine ⟨?_, rfl⟩
        intro elapsed positive small
        obtain rfl : elapsed = 1 := by omega
        exact inside
      · rintro ⟨inside, rfl⟩
        exact ⟨rfl, inside 1 (Nat.le_refl 1) (Nat.le_refl 1)⟩
  | succ time ih =>
      have silent : schedule.newest? uid (frame + time + 1) = none :=
        last (frame + time + 1) (by omega) (by omega)
      have before := ih fun later after early => last later after (by omega)
      rw [← Nat.add_assoc, afterSteps_succ,
        (reached_afterSteps schedule viewport (frame + time + 1)).get?_step uid, silent,
        Option.map_none, Option.none_or, Option.filter_eq_some_iff, Option.map_eq_some_iff]
      constructor
      · rintro ⟨⟨previous, found, rfl⟩, inside⟩
        obtain ⟨insideBefore, rfl⟩ := (before previous).mp found
        refine ⟨?_, rfl⟩
        intro elapsed positive small
        rcases Nat.lt_or_ge elapsed (time + 2) with earlier | latest
        · exact insideBefore elapsed positive (by omega)
        · obtain rfl : elapsed = time + 2 := by omega
          exact inside
      · rintro ⟨inside, rfl⟩
        refine ⟨⟨event.flown (time + 1), ?_, rfl⟩, inside (time + 2) (by omega) (by omega)⟩
        refine (before _).mpr ⟨?_, rfl⟩
        intro elapsed positive small
        exact inside elapsed positive (by omega)

/-- The same for the last event up to the frame that was played last. -/
theorem get?_afterSteps_of_latest
    {count frame : Nat}
    {event : BulletEvent}
    (latest : schedule.IsLatest uid count frame event)
    (projectile : Projectile) :
    ((Playback.start schedule viewport).afterSteps (count + 1)).registry.get? uid =
        some projectile ↔
      (∀ elapsed, 1 ≤ elapsed → elapsed ≤ count - frame + 1 →
          (event.flown elapsed).isInside viewport) ∧
        event.flown (count - frame + 1) = projectile := by
  obtain ⟨time, rfl⟩ : ∃ time, count = frame + time := ⟨count - frame, by
    have inRange := latest.1.1.1
    omega⟩
  rw [Nat.add_sub_cancel_left]
  exact
    get?_afterSteps_of_newest schedule viewport uid latest.newest?_eq_some time
      (fun later after early => latest.newest?_later after early) projectile

end Flight

/--
Playback shows every bullet on the trajectory of its last event.  A bullet
without an event is not in flight.  A bullet with one is in flight if it has
been in the play area after every unit of time since, and then it is where
that many units of time take it.  Nothing else in the schedule matters to it.
-/
theorem registry_on_trajectories
    (schedule : Schedule)
    (viewport : Viewport)
    (uid : Int)
    (count : Nat) :
    let registry := ((Playback.start schedule viewport).afterSteps (count + 1)).registry
    ((∀ frame ≤ count, ¬ schedule.Mentions uid frame) → registry.get? uid = none) ∧
      ∀ frame event, schedule.IsLatest uid count frame event →
        (registry.get? uid ≠ none ↔
            ∀ elapsed, 1 ≤ elapsed → elapsed ≤ count - frame + 1 →
              viewport.containsWithMargin ((event.flown elapsed).snapshot viewport).screen) ∧
          (∀ projectile, registry.get? uid = some projectile →
            projectile = event.flown (count - frame + 1)) ∧
            ∀ other : Schedule, other.IsLatest uid count frame event →
              ((Playback.start other viewport).afterSteps (count + 1)).registry.get? uid =
                registry.get? uid := by
  intro registry
  constructor
  · intro unmentioned
    refine get?_afterSteps_of_unmentioned schedule viewport uid (count + 1) ?_
    intro frame early
    exact Schedule.newest?_eq_none_iff.mpr (unmentioned frame (Nat.le_of_lt_succ early))
  · intro frame event latest
    have found := get?_afterSteps_of_latest schedule viewport uid latest
    refine ⟨?_, ?_, ?_⟩
    · rw [Option.ne_none_iff_exists']
      constructor
      · rintro ⟨projectile, inFlight⟩
        exact ((found projectile).mp inFlight).1
      · intro inside
        exact ⟨_, (found _).mpr ⟨inside, rfl⟩⟩
    · intro projectile inFlight
      exact ((found projectile).mp inFlight).2.symm
    · intro other otherLatest
      ext projectile
      rw [get?_afterSteps_of_latest other viewport uid otherLatest]
      exact (found projectile).symm

end Playback

end Barrage
