import Barrage.Proofs.Playback.Phases
import Barrage.Proofs.Playback.Replay

/-!
# The journal of playback

The records of playback come from two places, the events of a frame and the
departures after the move, and yet they tell the same story as the registry.
Replayed from the start they give the bullets in flight after every tick.

What a tick records is described once (`journal_step`): the effects of the
events, then the departures, then the end if it is the last tick.  The first
two kinds name the frame under the cursor.  A record of the end names none, so
it cannot be confused with them.
-/

namespace Barrage

open scoped Computability

namespace Record

/-- The frame that a record names. -/
def frame? : Record → Option Nat
  | created _ frame | updated _ frame | left _ frame => some frame
  | frameRepeated _ | scheduleBuilt _ _ _ | finished _ => none

/-- The bullet of the event whose effect is recorded. -/
def appliedUid? : Record → Option Int
  | created uid _ | updated uid _ => some uid
  | left _ _ | frameRepeated _ | scheduleBuilt _ _ _ | finished _ => none

end Record

/-! ## Records of a registry -/

namespace Registry

/-- The bullets in flight. -/
def uids (registry : Registry) : Finset Int :=
  registry.keys.toFinset

theorem mem_uids_iff
    {registry : Registry}
    {uid : Int} :
    uid ∈ registry.uids ↔ registry.get? uid ≠ none := by
  rw [uids, List.mem_toFinset, OrderedMap.mem_keys_iff]

theorem uids_insert
    (registry : Registry)
    (uid : Int)
    (projectile : Projectile) :
    Registry.uids (registry.insert uid projectile) = insert uid registry.uids := by
  ext other
  rw [Finset.mem_insert, mem_uids_iff, mem_uids_iff, OrderedMap.get?_insert]
  by_cases same : other = uid <;> simp [same]

theorem uids_advance (registry : Registry) : registry.advance.uids = registry.uids := by
  ext uid
  rw [mem_uids_iff, mem_uids_iff, get?_advance, Ne, Option.map_eq_none_iff]

theorem get?_outside
    (registry : Registry)
    (viewport : Viewport)
    (uid : Int) :
    (registry.outside viewport).get? uid = (registry.get? uid).filter (!·.isInside viewport) :=
  OrderedMap.get?_filterValues registry _ uid

/-- A bullet stays or leaves, and not both. -/
theorem uids_sdiff_outside
    (registry : Registry)
    (viewport : Viewport) :
    registry.uids \ (registry.outside viewport).uids = (registry.inside viewport).uids := by
  ext uid
  rw [Finset.mem_sdiff, mem_uids_iff, mem_uids_iff, mem_uids_iff, get?_outside, get?_inside]
  cases registry.get? uid with
  | none => simp
  | some projectile => cases inside : projectile.isInside viewport <;> simp [inside]

theorem replay?_apply
    (registry : Registry)
    (frame : Nat)
    (event : BulletEvent) :
    (registry.apply frame event).2.replay? registry.uids =
      some (registry.apply frame event).1.uids := by
  rw [apply]
  split
  next absent =>
    have notInFlight : event.uid ∉ registry.uids := by
      rw [mem_uids_iff, absent]
      simp
    rw [Record.replay?, if_neg notInFlight, uids_insert]
  next projectile present =>
    have inFlight : event.uid ∈ registry.uids := by
      rw [mem_uids_iff, present]
      simp
    rw [Record.replay?, if_pos inFlight, uids_insert, Finset.insert_eq_of_mem inFlight]

/-- The record of an event names the frame. -/
theorem frame?_apply
    (registry : Registry)
    (frame : Nat)
    (event : BulletEvent) :
    (registry.apply frame event).2.frame? = some frame := by
  rw [apply]
  split <;> rfl

theorem appliedUid?_apply
    (registry : Registry)
    (frame : Nat)
    (event : BulletEvent) :
    (registry.apply frame event).2.appliedUid? = some event.uid := by
  rw [apply]
  split <;> rfl

theorem records_applyAll_cons
    (frame : Nat)
    (registry : Registry)
    (event : BulletEvent)
    (rest : List BulletEvent) :
    (registry.applyAll frame (event :: rest)).2 =
      (registry.apply frame event).2 :: ((registry.apply frame event).1.applyAll frame rest).2 :=
  rfl

theorem replayAll?_applyAll
    (registry : Registry)
    (frame : Nat)
    (events : List BulletEvent) :
    Record.replayAll? registry.uids (registry.applyAll frame events).2 =
      some (registry.applyAll frame events).1.uids := by
  induction events generalizing registry with
  | nil => rfl
  | cons event rest ih =>
      rw [records_applyAll_cons, Record.replayAll?_cons, replay?_apply, Option.bind_some, ih,
        applyAll_cons]

theorem frame?_of_mem_applyAll
    {registry : Registry}
    {frame : Nat}
    {events : List BulletEvent}
    {record : Record}
    (member : record ∈ (registry.applyAll frame events).2) :
    record.frame? = some frame := by
  induction events generalizing registry with
  | nil => cases member
  | cons event rest ih =>
      rw [records_applyAll_cons] at member
      rcases List.mem_cons.mp member with rfl | later
      · exact registry.frame?_apply frame event
      · exact ih later

/-- Each event has one record, in the order of the events. -/
theorem appliedUid?_applyAll
    (registry : Registry)
    (frame : Nat)
    (events : List BulletEvent) :
    (registry.applyAll frame events).2.filterMap Record.appliedUid? = events.map (·.uid) := by
  induction events generalizing registry with
  | nil => rfl
  | cons event rest ih =>
      rw [records_applyAll_cons, List.filterMap_cons, appliedUid?_apply, ih, List.map_cons]

/-- The records of the bullets that leave. -/
def departures
    (registry : Registry)
    (viewport : Viewport)
    (frame : Nat) : List Record :=
  (registry.outside viewport).keys.map (Record.left · frame)

theorem replayAll?_departures
    (registry : Registry)
    (viewport : Viewport)
    (frame : Nat) :
    Record.replayAll? registry.uids (registry.departures viewport frame) =
      some (registry.inside viewport).uids := by
  rw [← uids_sdiff_outside]
  refine Record.replayAll?_left _ frame (OrderedMap.keys_nodup _) ?_
  intro uid member
  rw [OrderedMap.mem_keys_iff, get?_outside] at member
  rw [mem_uids_iff]
  intro absent
  rw [absent] at member
  exact member rfl

theorem frame?_of_mem_departures
    {registry : Registry}
    {viewport : Viewport}
    {frame : Nat}
    {record : Record}
    (member : record ∈ registry.departures viewport frame) :
    record.frame? = some frame := by
  obtain ⟨uid, -, rfl⟩ := List.mem_map.mp member
  rfl

theorem appliedUid?_departures
    (registry : Registry)
    (viewport : Viewport)
    (frame : Nat) :
    (registry.departures viewport frame).filterMap Record.appliedUid? = [] := by
  rw [departures, List.filterMap_map, List.filterMap_eq_nil_iff]
  intro uid _
  rfl

end Registry

namespace Playback

/-! ## The records of one tick -/

section Tick

variable
    {playback : Playback}

/-- The events of the frame under the cursor. -/
def dueEvents (playback : Playback) : List BulletEvent :=
  (playback.schedule.eventsAt playback.cursor).getD []

/-- The registry with the events of the frame under the cursor applied, and their records. -/
def applied (playback : Playback) : Registry × List Record :=
  playback.registry.applyAll playback.cursor playback.dueEvents

/-- The records of what happens to bullets in a tick before the end. -/
def deedRecords (playback : Playback) : List Record :=
  playback.applied.2 ++ playback.applied.1.advance.departures playback.viewport playback.cursor

/-- The record of the end, if a tick leads to it. -/
def endRecords (playback : Playback) : List Record :=
  if playback.step.playback.phase = .finished then [.finished (playback.cursor + 1)] else []

theorem journal_step (notFinished : playback.phase ≠ .finished) :
    playback.step.journal = playback.deedRecords ++ playback.endRecords := by
  rw [endRecords, step_of_not_finished notFinished, step, if_neg notFinished]
  rfl

theorem replayAll?_endRecords
    (playback : Playback)
    (inFlight : Finset Int) :
    Record.replayAll? inFlight playback.endRecords = some inFlight := by
  rw [endRecords]
  split <;> rfl

/-- Replaying the records of a tick gives the bullets in flight after it. -/
theorem replayAll?_step (playback : Playback) :
    Record.replayAll? playback.registry.uids playback.step.journal =
      some playback.step.playback.registry.uids := by
  by_cases finished : playback.phase = .finished
  · rw [step_of_finished finished]
    rfl
  · -- The move changes where bullets are, not which are in flight.
    have applied : Record.replayAll? playback.registry.uids playback.applied.2 =
        some playback.applied.1.advance.uids := by
      rw [Registry.uids_advance]
      exact Registry.replayAll?_applyAll _ _ _
    rw [journal_step finished, deedRecords, Record.replayAll?_append, Record.replayAll?_append,
      applied, Option.bind_some, Registry.replayAll?_departures, Option.bind_some,
      replayAll?_endRecords, step_of_not_finished finished]
    rfl

theorem frame?_of_mem_deedRecords
    {record : Record}
    (member : record ∈ playback.deedRecords) :
    record.frame? = some playback.cursor := by
  rcases List.mem_append.mp member with fromEvent | fromDeparture
  · exact Registry.frame?_of_mem_applyAll fromEvent
  · exact Registry.frame?_of_mem_departures fromDeparture

theorem finished_not_mem_deedRecords
    (playback : Playback)
    (ticks : Nat) :
    Record.finished ticks ∉ playback.deedRecords :=
  fun member => nomatch frame?_of_mem_deedRecords member

theorem frame_of_mem_journal_step
    {record : Record}
    (member : record ∈ playback.step.journal)
    {frame : Nat}
    (named : record.frame? = some frame) :
    frame = playback.cursor := by
  by_cases finished : playback.phase = .finished
  · rw [step_of_finished finished] at member
    cases member
  · rw [journal_step finished, List.mem_append] at member
    rcases member with deed | ending
    · rw [frame?_of_mem_deedRecords deed, Option.some.injEq] at named
      exact named.symm
    · rw [endRecords, List.mem_ite_nil_right, List.mem_singleton] at ending
      obtain ⟨-, rfl⟩ := ending
      cases named

theorem finished_mem_journal_step_iff
    {ticks : Nat} :
    Record.finished ticks ∈ playback.step.journal ↔
      playback.phase ≠ .finished ∧
        playback.step.playback.phase = .finished ∧ ticks = playback.cursor + 1 := by
  by_cases finished : playback.phase = .finished
  · rw [step_of_finished finished]
    exact iff_of_false List.not_mem_nil fun ⟨notFinished, _⟩ => notFinished finished
  · rw [journal_step finished, List.mem_append, endRecords, List.mem_ite_nil_right,
      List.mem_singleton, Record.finished.injEq]
    simp [finished_not_mem_deedRecords, finished]

/-- Before the end, a tick makes one record of each event that it applies. -/
theorem appliedUid?_journal_step (notFinished : playback.phase ≠ .finished) :
    playback.step.journal.filterMap Record.appliedUid? = playback.dueEvents.map (·.uid) := by
  have ending : playback.endRecords.filterMap Record.appliedUid? = [] := by
    rw [endRecords]
    split <;> rfl
  rw [journal_step notFinished, deedRecords, List.filterMap_append, List.filterMap_append,
    Registry.appliedUid?_departures, ending, List.append_nil, List.append_nil]
  exact Registry.appliedUid?_applyAll _ _ _

end Tick

/-! ## The records of a run -/

theorem afterSteps_step
    (playback : Playback)
    (count : Nat) :
    playback.step.playback.afterSteps count = playback.afterSteps (count + 1) := by
  induction count with
  | zero => rfl
  | succ count ih => rw [afterSteps_succ, ih, ← afterSteps_succ]

/-- The records of one more tick come after the others. -/
theorem journalOfSteps_succ
    (playback : Playback)
    (count : Nat) :
    playback.journalOfSteps (count + 1) =
      playback.journalOfSteps count ++ (playback.afterSteps count).step.journal := by
  induction count generalizing playback with
  | zero => exact List.append_nil _
  | succ count ih =>
      rw [journalOfSteps, ih, afterSteps_step, ← List.append_assoc]
      rfl

section Run

variable
    (schedule : Schedule)
    (viewport : Viewport)

theorem replayAll?_journalOfSteps (count : Nat) :
    Record.replayAll? ∅ ((start schedule viewport).journalOfSteps count) =
      some ((start schedule viewport).afterSteps count).registry.uids := by
  induction count with
  | zero => rfl
  | succ count ih =>
      rw [journalOfSteps_succ, Record.replayAll?_append, ih, Option.bind_some, replayAll?_step,
        afterSteps_succ]

theorem deeds_mem_lives
    (count : Nat)
    (uid : Int) :
    ((start schedule viewport).journalOfSteps count).filterMap (Record.deed? uid) ∈
      Deed.lives
        (decide (uid ∈ ((start schedule viewport).afterSteps count).registry.uids)) :=
  Record.mem_lives_of_replayAll? (replayAll?_journalOfSteps schedule viewport count) uid
    Deed.nil_mem_lives

theorem finishesAfter_succ_iff
    {count : Nat} :
    (start schedule viewport).FinishesAfter (count + 1) ↔
      ((start schedule viewport).afterSteps count).phase ≠ .finished ∧
        ((start schedule viewport).afterSteps (count + 1)).phase = .finished := by
  constructor
  · intro ends
    exact ⟨ends.phase_ne_finished (Nat.lt_succ_self count), ends.1⟩
  · rintro ⟨notFinished, finished⟩
    refine ⟨finished, fun ticks ended => Nat.lt_of_not_le fun early => notFinished ?_⟩
    rw [afterSteps_of_finished ended early]
    exact ended

theorem not_finishesAfter_zero : ¬ (start schedule viewport).FinishesAfter 0 :=
  fun ends => nomatch ends.1

/-- The end is recorded by the tick that leads to it. -/
theorem finished_mem_journalOfSteps_iff
    {count ticks : Nat} :
    Record.finished ticks ∈ (start schedule viewport).journalOfSteps count ↔
      ticks ≤ count ∧ (start schedule viewport).FinishesAfter ticks := by
  induction count with
  | zero =>
      refine iff_of_false List.not_mem_nil ?_
      rintro ⟨none, ends⟩
      rw [Nat.le_zero.mp none] at ends
      exact not_finishesAfter_zero schedule viewport ends
  | succ count ih =>
      rw [journalOfSteps_succ, List.mem_append, ih, finished_mem_journal_step_iff,
        ← afterSteps_succ]
      constructor
      · rintro (⟨early, ends⟩ | ⟨notFinished, finished, rfl⟩)
        · exact ⟨Nat.le_succ_of_le early, ends⟩
        · rw [cursor_afterSteps schedule viewport notFinished]
          exact
            ⟨Nat.le_refl _,
              (finishesAfter_succ_iff schedule viewport).mpr ⟨notFinished, finished⟩⟩
      · rintro ⟨inRange, ends⟩
        rcases Nat.le_or_eq_of_le_succ inRange with early | rfl
        · exact .inl ⟨early, ends⟩
        · obtain ⟨notFinished, finished⟩ := (finishesAfter_succ_iff schedule viewport).mp ends
          refine .inr ⟨notFinished, finished, ?_⟩
          rw [cursor_afterSteps schedule viewport notFinished]

/-- Nothing is recorded after the end. -/
theorem journalOfSteps_of_finishesAfter
    {last count : Nat}
    (ends : (start schedule viewport).FinishesAfter last)
    (late : last ≤ count) :
    (start schedule viewport).journalOfSteps count =
      (start schedule viewport).journalOfSteps last := by
  induction count, late using Nat.le_induction with
  | base => rfl
  | succ count late ih =>
      have finished := ends.phase_eq_finished_iff.mpr late
      rw [journalOfSteps_succ, ih, step_of_finished finished, List.append_nil]

/-- The record of the end is the last one and the only one of its kind. -/
theorem exists_append_finished
    {count ticks : Nat}
    (recorded : Record.finished ticks ∈ (start schedule viewport).journalOfSteps count) :
    ∃ before,
      (start schedule viewport).journalOfSteps count = before ++ [.finished ticks] ∧
        ∀ other, Record.finished other ∉ before := by
  obtain ⟨late, ends⟩ := (finished_mem_journalOfSteps_iff schedule viewport).mp recorded
  rw [journalOfSteps_of_finishesAfter schedule viewport ends late]
  cases ticks with
  | zero => exact absurd ends (not_finishesAfter_zero schedule viewport)
  | succ last =>
      obtain ⟨notFinished, finished⟩ := (finishesAfter_succ_iff schedule viewport).mp ends
      rw [afterSteps_succ] at finished
      rw [journalOfSteps_succ, journal_step notFinished, endRecords, if_pos finished,
        cursor_afterSteps schedule viewport notFinished, ← List.append_assoc]
      refine ⟨_, rfl, fun other member => ?_⟩
      rcases List.mem_append.mp member with earlier | deed
      · obtain ⟨early, otherEnds⟩ := (finished_mem_journalOfSteps_iff schedule viewport).mp earlier
        exact notFinished (otherEnds.phase_eq_finished_iff.mpr early)
      · exact finished_not_mem_deedRecords _ other deed

end Run

/--
The journal tells the same story as the registry.  Its records can be replayed
one after the other, which means that a bullet appears only while it is not in
flight, and is set anew or leaves only while it is, and the bullets in flight
according to the replay are those of the registry after every tick.  So the
records of each bullet are lives, one after the other, of which the last goes
on if the bullet is in flight.  The records of a tick name the frame under the
cursor, with one record for each event that is applied.  The end is recorded
with the number of ticks up to it, once and after everything else.
-/
theorem journal_of_playback
    (schedule : Schedule)
    (viewport : Viewport) :
    let reached := (start schedule viewport).afterSteps
    let journal := (start schedule viewport).journalOfSteps
    (∀ count,
      Record.replayAll? ∅ (journal count) = some (reached count).registry.keys.toFinset) ∧
      (∀ count uid,
        (journal count).filterMap (Record.deed? uid) ∈
          if uid ∈ (reached count).registry.keys then
            Deed.wholeLife∗ * Deed.unfinishedLife
          else Deed.wholeLife∗) ∧
      (∀ count,
        journal (count + 1) = journal count ++ (reached count).step.journal ∧
          (∀ record ∈ (reached count).step.journal, ∀ frame, record.frame? = some frame →
            frame = (reached count).cursor) ∧
          (reached count).step.journal.filterMap Record.appliedUid? =
            if (reached count).phase = .finished then []
            else ((schedule.eventsAt (reached count).cursor).getD []).map (·.uid)) ∧
      ∀ count ticks,
        (Record.finished ticks ∈ journal count ↔
          ticks ≤ count ∧ (start schedule viewport).FinishesAfter ticks) ∧
          (Record.finished ticks ∈ journal count →
            ∃ before,
              journal count = before ++ [.finished ticks] ∧
                ∀ other, Record.finished other ∉ before) := by
  intro reached journal
  refine ⟨?replay, ?lives, ?ticks, ?ending⟩
  case replay => exact replayAll?_journalOfSteps schedule viewport
  case lives =>
    intro count uid
    have lived := deeds_mem_lives schedule viewport count uid
    simpa only [Deed.lives, decide_eq_true_eq, Registry.uids, List.mem_toFinset] using lived
  case ticks =>
    intro count
    refine ⟨journalOfSteps_succ _ count, ?_, ?_⟩
    · intro record member frame named
      exact frame_of_mem_journal_step member named
    · by_cases finished : (reached count).phase = .finished
      · rw [if_pos finished, step_of_finished finished]
        rfl
      · rw [if_neg finished, appliedUid?_journal_step finished, dueEvents,
          (reached_afterSteps schedule viewport count).schedule_eq]
  case ending =>
    intro count ticks
    exact
      ⟨finished_mem_journalOfSteps_iff schedule viewport,
        exists_append_finished schedule viewport⟩

end Playback

end Barrage
