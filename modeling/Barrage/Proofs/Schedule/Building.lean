import Barrage.Proofs.OrderedMap
import Barrage.Proofs.Schedule.Reading
import Mathlib.Data.Finset.Card

/-!
# The schedule of a document

A document that describes frames has a schedule, and no other tree has one.
In the schedule every frame has the events of the last block with its number.
What earlier blocks with this number held is gone, whether the blocks follow
each other or not.
-/

namespace Barrage.Schedule

open Barrage.Document Barrage.Traversal

/-! ## Scripted frames -/

/-- The events of the last block with a number. -/
def lastEvents?
    (blocks : List Block)
    (frame : Nat) : Option (List BulletEvent) :=
  ((blocks.filter (·.frame = frame)).getLast?).map (·.events)

theorem lastEvents?_cons
    (block : Block)
    (rest : List Block)
    (frame : Nat) :
    lastEvents? (block :: rest) frame =
      (lastEvents? rest frame).or (if block.frame = frame then some block.events else none) := by
  rw [lastEvents?, getLast?_filter_cons, lastEvents?, Option.map_or]
  by_cases same : block.frame = frame <;> simp [same]

theorem lastEvents?_eq_none_iff
    {blocks : List Block}
    {frame : Nat} :
    lastEvents? blocks frame = none ↔ frame ∉ blocks.map (·.frame) := by
  simp [lastEvents?]

theorem eventsAt_insert
    (schedule : Schedule)
    (frame other : Nat)
    (events : List BulletEvent) :
    (schedule.insert frame events).schedule.eventsAt other =
      if other = frame then some events else schedule.eventsAt other :=
  OrderedMap.get?_insert schedule.frames frame other events

/-- A block stands in front of what was scripted before. -/
theorem eventsAt_insert_block
    (schedule : Schedule)
    (block : Block)
    (frame : Nat) :
    (schedule.insert block.frame block.events).schedule.eventsAt frame =
      (if block.frame = frame then some block.events else none).or (schedule.eventsAt frame) := by
  rw [eventsAt_insert]
  by_cases same : block.frame = frame
  · rw [if_pos same.symm, if_pos same]
    rfl
  · rw [if_neg (Ne.symm same), if_neg same]
    rfl

theorem eventsAt_insertBlocks
    (schedule : Schedule)
    (blocks : List Block)
    (frame : Nat) :
    (insertBlocks schedule blocks).schedule.eventsAt frame =
      (lastEvents? blocks frame).or (schedule.eventsAt frame) := by
  induction blocks generalizing schedule with
  | nil => rfl
  | cons block rest ih =>
      rw [insertBlocks_cons, ih, eventsAt_insert_block, lastEvents?_cons, Option.or_assoc]

theorem eventsAt_ofBlocks
    (blocks : List Block)
    (frame : Nat) :
    (ofBlocks blocks).schedule.eventsAt frame = lastEvents? blocks frame := by
  have inserted := eventsAt_insertBlocks empty blocks frame
  rwa [show empty.eventsAt frame = none from rfl, Option.or_none] at inserted

theorem mem_keys_ofBlocks_iff
    {blocks : List Block}
    {frame : Nat} :
    frame ∈ (ofBlocks blocks).schedule.frames.keys ↔ frame ∈ blocks.map (·.frame) := by
  rw [OrderedMap.mem_keys_iff, ← not_iff_not, not_not, ← lastEvents?_eq_none_iff,
    ← eventsAt_ofBlocks]
  rfl

/-! ## The number of frames and the last of them -/

theorem toFinset_keys_ofBlocks (blocks : List Block) :
    (ofBlocks blocks).schedule.frames.keys.toFinset = (blocks.map (·.frame)).toFinset := by
  ext frame
  rw [List.mem_toFinset, List.mem_toFinset, mem_keys_ofBlocks_iff]

theorem frameCount_ofBlocks (blocks : List Block) :
    (ofBlocks blocks).schedule.frameCount = (blocks.map (·.frame)).toFinset.card := by
  rw [← toFinset_keys_ofBlocks, List.toFinset_card_of_nodup (OrderedMap.keys_nodup _),
    OrderedMap.keys, List.length_map]
  rfl

theorem lastFrame_ofBlocks (blocks : List Block) :
    (ofBlocks blocks).schedule.lastFrame = ((blocks.map (·.frame)).max?).getD 0 := by
  have greatest :
      (ofBlocks blocks).schedule.frames.keys.max? = (blocks.map (·.frame)).max? := by
    ext last
    simp only [List.max?_eq_some_iff, mem_keys_ofBlocks_iff]
  rw [lastFrame, ← OrderedMap.max?_keys, greatest]

/-! ## Documents -/

theorem ofNode_eq_ok_iff
    {document : Node}
    {schedule : Schedule} :
    ofNode document = .ok schedule ↔
      ∃ blocks, IsDocument document blocks ∧ (ofBlocks blocks).schedule = schedule := by
  simp only [ofNode, build_eq, map_eq_ok_iff, readBlocks_eq_ok_iff]
  constructor
  · rintro ⟨_, ⟨blocks, described, rfl⟩, rfl⟩
    exact ⟨blocks, described, rfl⟩
  · rintro ⟨blocks, described, rfl⟩
    exact ⟨_, ⟨blocks, described, rfl⟩, rfl⟩

/-- A text is loaded exactly if it is read as a document that describes frames. -/
theorem load_eq_ok_iff
    {text : List Char}
    {schedule : Schedule} :
    load text = .ok schedule ↔
      ∃ document blocks,
        readDocument text = .ok document ∧
          IsDocument document blocks ∧ (ofBlocks blocks).schedule = schedule := by
  simp only [load, loadNoting_eq, map_eq_ok_iff, bind_eq_ok_iff, mapError_eq_ok_iff, build_eq,
    readBlocks_eq_ok_iff]
  constructor
  · rintro ⟨_, ⟨document, read, blocks, described, rfl⟩, rfl⟩
    exact ⟨document, blocks, read, described, rfl⟩
  · rintro ⟨document, blocks, read, described, rfl⟩
    exact ⟨_, ⟨document, read, blocks, described, rfl⟩, rfl⟩

/--
A tree has a schedule exactly if it describes frames.  In the schedule every
number has the events of the last block with it, in their order, and a number
without a block has none.
-/
theorem schedule_of_document
    (document : Node) :
    ((∃ schedule, ofNode document = .ok schedule) ↔ ∃ blocks, IsDocument document blocks) ∧
      ∀ blocks, IsDocument document blocks →
        ∀ schedule, ofNode document = .ok schedule →
          (∀ frame,
              schedule.eventsAt frame =
                ((blocks.filter (·.frame = frame)).getLast?).map (·.events)) ∧
            schedule.frameCount = (blocks.map (·.frame)).toFinset.card ∧
              schedule.lastFrame = ((blocks.map (·.frame)).max?).getD 0 := by
  constructor
  · simp only [ofNode_eq_ok_iff]
    constructor
    · rintro ⟨_, blocks, described, -⟩
      exact ⟨blocks, described⟩
    · rintro ⟨blocks, described⟩
      exact ⟨_, blocks, described, rfl⟩
  · intro blocks described schedule built
    obtain ⟨otherBlocks, otherDescribed, rfl⟩ := ofNode_eq_ok_iff.mp built
    obtain rfl : blocks = otherBlocks :=
      Except.ok.inj
        ((readBlocks_eq_ok_iff.mpr described).symm.trans
          (readBlocks_eq_ok_iff.mpr otherDescribed))
    exact ⟨eventsAt_ofBlocks blocks, frameCount_ofBlocks blocks, lastFrame_ofBlocks blocks⟩

end Barrage.Schedule
