import Barrage.Proofs.Schedule.Building

/-!
# Runs of insertions

A schedule is filled by insertions, of which each gives back the events that it
replaces.  What is given back is what was inserted last for the same frame
(`replaced_insertAll`).  So nothing is lost and nothing comes up twice: of the
lists and of the events that were inserted, those that were not given back are in
the schedule (`frameCount_insertAll`, `eventCount_insertAll`).
-/

namespace Barrage.Schedule

/-- A schedule after some insertions, with what each of them gave back. -/
structure Insertions where
  schedule : Schedule
  replaced : List (Option (List BulletEvent))

/-- Insert the events of one frame after the other. -/
def insertAll (schedule : Schedule) : List Block → Insertions
  | [] => ⟨schedule, []⟩
  | block :: rest =>
      let insertion := schedule.insert block.frame block.events
      let later := insertAll insertion.schedule rest
      ⟨later.schedule, insertion.replaced :: later.replaced⟩

/-- The number of events in what an insertion gave back. -/
def eventsIn (replaced : Option (List BulletEvent)) : Nat :=
  (replaced.map List.length).getD 0

/-! ## One insertion -/

section Insert

variable (schedule : Schedule) (frame : Nat) (events : List BulletEvent)

theorem frameCount_insert :
    (schedule.insert frame events).schedule.frameCount +
        (if (schedule.insert frame events).replaced.isSome then 1 else 0) =
      schedule.frameCount + 1 := by
  have conserved := schedule.frames.total_insert (fun _ => 1) frame events
  rw [frameCount, frameCount, OrderedMap.size_eq_total, OrderedMap.size_eq_total, ← conserved]
  show _ + (if (schedule.frames.get? frame).isSome then 1 else 0) = _
  cases schedule.frames.get? frame <;> rfl

theorem eventCount_eq_total :
    schedule.eventCount = schedule.frames.total List.length := by
  rw [eventCount, Schedule.events, List.length_flatten, List.sum_eq_foldr, List.foldr_map,
    OrderedMap.total]

theorem eventCount_insert :
    (schedule.insert frame events).schedule.eventCount +
        eventsIn (schedule.insert frame events).replaced =
      schedule.eventCount + events.length := by
  rw [eventCount_eq_total, eventCount_eq_total]
  exact schedule.frames.total_insert List.length frame events

end Insert

/-! ## All insertions -/

section Cons

variable (schedule : Schedule) (block : Block) (rest : List Block)

theorem schedule_insertAll_cons :
    (insertAll schedule (block :: rest)).schedule =
      (insertAll (schedule.insert block.frame block.events).schedule rest).schedule :=
  rfl

theorem replaced_insertAll_cons :
    (insertAll schedule (block :: rest)).replaced =
      (schedule.insert block.frame block.events).replaced ::
        (insertAll (schedule.insert block.frame block.events).schedule rest).replaced :=
  rfl

end Cons

theorem schedule_insertAll
    (schedule : Schedule)
    (blocks : List Block) :
    (insertAll schedule blocks).schedule = (insertBlocks schedule blocks).schedule := by
  induction blocks generalizing schedule with
  | nil => rfl
  | cons block rest ih =>
      rw [schedule_insertAll_cons, insertBlocks_cons, ih]

theorem insertAll_empty (blocks : List Block) :
    (insertAll empty blocks).schedule = (ofBlocks blocks).schedule :=
  schedule_insertAll empty blocks

theorem eventsAt_insertAll
    (schedule : Schedule)
    (blocks : List Block)
    (frame : Nat) :
    (insertAll schedule blocks).schedule.eventsAt frame =
      (lastEvents? blocks frame).or (schedule.eventsAt frame) := by
  rw [schedule_insertAll, eventsAt_insertBlocks]

/-- Every insertion gives back what was inserted last for its frame, or what was there before all. -/
theorem replaced_insertAll
    (schedule : Schedule)
    (blocks : List Block) :
    (insertAll schedule blocks).replaced =
      blocks.mapIdx fun index block =>
        (lastEvents? (blocks.take index) block.frame).or (schedule.eventsAt block.frame) := by
  induction blocks generalizing schedule with
  | nil => rfl
  | cons first rest ih =>
      have later (index : Nat) (block : Block) :
          (lastEvents? (rest.take index) block.frame).or
              ((schedule.insert first.frame first.events).schedule.eventsAt block.frame) =
            (lastEvents? ((first :: rest).take (index + 1)) block.frame).or
              (schedule.eventsAt block.frame) := by
        rw [eventsAt_insert_block, List.take_succ_cons, lastEvents?_cons, Option.or_assoc]
      rw [replaced_insertAll_cons, List.mapIdx_cons]
      simp only [ih, later]
      rfl

theorem frameCount_insertAll
    (schedule : Schedule)
    (blocks : List Block) :
    (insertAll schedule blocks).schedule.frameCount +
        (insertAll schedule blocks).replaced.countP Option.isSome =
      schedule.frameCount + blocks.length := by
  induction blocks generalizing schedule with
  | nil => rfl
  | cons block rest ih =>
      have first := frameCount_insert schedule block.frame block.events
      have later := ih (schedule.insert block.frame block.events).schedule
      rw [schedule_insertAll_cons, replaced_insertAll_cons, List.countP_cons, List.length_cons]
      omega

theorem eventCount_insertAll
    (schedule : Schedule)
    (blocks : List Block) :
    (insertAll schedule blocks).schedule.eventCount +
        ((insertAll schedule blocks).replaced.map eventsIn).sum =
      schedule.eventCount + (blocks.map (·.events.length)).sum := by
  induction blocks generalizing schedule with
  | nil => rfl
  | cons block rest ih =>
      have first := eventCount_insert schedule block.frame block.events
      have later := ih (schedule.insert block.frame block.events).schedule
      rw [schedule_insertAll_cons, replaced_insertAll_cons, List.map_cons, List.map_cons,
        List.sum_cons, List.sum_cons]
      omega

/-- What is left of some insertions is settled by the last events of each frame. -/
theorem schedule_insertAll_congr
    {blocks others : List Block}
    (sameLast : ∀ frame, lastEvents? blocks frame = lastEvents? others frame) :
    (insertAll empty blocks).schedule = (insertAll empty others).schedule := by
  have frames :
      (insertAll empty blocks).schedule.frames = (insertAll empty others).schedule.frames := by
    refine OrderedMap.ext_get? fun frame => ?_
    have left := eventsAt_insertAll empty blocks frame
    have right := eventsAt_insertAll empty others frame
    rw [sameLast frame, ← right] at left
    exact left
  exact congrArg Schedule.mk frames

theorem isEmpty_insertAll_iff (blocks : List Block) :
    (insertAll empty blocks).schedule.isEmpty = true ↔ blocks = [] := by
  constructor
  · intro nothing
    cases blocks with
    | nil => rfl
    | cons block rest =>
        have absent := OrderedMap.isEmpty_iff_get?.mp nothing block.frame
        have scripted := eventsAt_insertAll empty (block :: rest) block.frame
        rw [eventsAt, absent, lastEvents?_cons, if_pos rfl] at scripted
        cases inRest : lastEvents? rest block.frame <;> simp [inRest] at scripted
  · rintro rfl
    rfl

/--
Every insertion into an empty schedule gives back the events that were inserted last
for its frame.  Afterwards a frame has the events that were inserted last for it.
The frames and the events of the schedule are those that were inserted, without
those that were given back.  The frames are in ascending order.  Which schedule it is
depends on nothing but the last events of each frame.
-/
theorem insertions_conserve_events (blocks : List Block) :
    (insertAll empty blocks).replaced =
        blocks.mapIdx (fun index block => lastEvents? (blocks.take index) block.frame) ∧
      (∀ frame,
          (insertAll empty blocks).schedule.eventsAt frame = lastEvents? blocks frame) ∧
        (insertAll empty blocks).schedule.frameCount +
            (insertAll empty blocks).replaced.countP Option.isSome =
          blocks.length ∧
        (insertAll empty blocks).schedule.eventCount +
            ((insertAll empty blocks).replaced.map eventsIn).sum =
          (blocks.map (·.events.length)).sum ∧
        (insertAll empty blocks).schedule.frames.keys.Pairwise (· < ·) ∧
        (insertAll empty blocks).schedule.frames.keys.Nodup ∧
        (insertAll empty blocks).schedule.lastFrame = ((blocks.map (·.frame)).max?).getD 0 ∧
        ((insertAll empty blocks).schedule.isEmpty = true ↔ blocks = []) ∧
        ∀ others : List Block,
          (∀ frame, lastEvents? blocks frame = lastEvents? others frame) →
            (insertAll empty blocks).schedule = (insertAll empty others).schedule := by
  have nothing (frame : Nat) : empty.eventsAt frame = none := rfl
  have frames := frameCount_insertAll empty blocks
  have events := eventCount_insertAll empty blocks
  have none : empty.frameCount = 0 ∧ empty.eventCount = 0 := ⟨rfl, rfl⟩
  refine ⟨?_, fun frame => ?_, by omega, by omega, ?_, ?_, ?_, isEmpty_insertAll_iff blocks,
    fun others => schedule_insertAll_congr⟩
  · simp only [replaced_insertAll, nothing, Option.or_none]
  · rw [eventsAt_insertAll, nothing, Option.or_none]
  · exact OrderedMap.keys_ascending _
  · exact OrderedMap.keys_nodup _
  · rw [insertAll_empty, lastFrame_ofBlocks]

/-- Frame 3 is inserted three times, and its events come back twice. -/
example (first second third : BulletEvent) :
    (insertAll empty [⟨3, [first]⟩, ⟨1, []⟩, ⟨3, []⟩, ⟨3, [second, third]⟩]).replaced =
      [none, none, some [first], some []] := by
  rfl

end Barrage.Schedule
