import Barrage.Proofs.Schedule.Building
import Barrage.Proofs.Schedule.Written
import Mathlib.Algebra.BigOperators.Group.Finset.Basic
import Mathlib.Data.Finset.Union

/-!
# Counting frames, events and bullets

A schedule is summed up in four numbers.  They can be counted in three ways: in
the blocks of a document, where only the last block with a number counts; in the
schedule; and in its JSON form.  All three come to the same.
-/

namespace Barrage

open Barrage.Json Barrage.Number

/-! ## What is counted -/

/-- The numbers that a schedule is summed up in. -/
structure Counts where
  frames : Nat
  events : Nat
  bullets : Nat
  lastFrame : Nat
deriving DecidableEq, Repr

namespace Schedule

/-- The numbers of the frames that some blocks script. -/
def frameNumbers (blocks : List Block) : Finset Nat :=
  (blocks.map (·.frame)).toFinset

/-- The events that are left for a frame, those of the last block with its number. -/
def eventsLeft
    (blocks : List Block)
    (frame : Nat) : List BulletEvent :=
  (lastEvents? blocks frame).getD []

end Schedule

open Schedule

namespace Counts

/-- Counted in the blocks of a document. -/
def ofBlocks (blocks : List Block) : Counts where
  frames := (frameNumbers blocks).card
  events := ∑ frame ∈ frameNumbers blocks, (eventsLeft blocks frame).length
  bullets :=
    ((frameNumbers blocks).biUnion fun frame =>
      ((eventsLeft blocks frame).map (·.uid)).toFinset).card
  lastFrame := (blocks.map (·.frame)).max?.getD 0

/-- Counted in a schedule. -/
def ofSchedule (schedule : Schedule) : Counts where
  frames := schedule.frameCount
  events := schedule.eventCount
  bullets := schedule.bulletCount
  lastFrame := schedule.lastFrame

end Counts

namespace Json

/-- The members of an object. -/
def members : Json → List (List Char × Json)
  | object members => members
  | _ => []

/-- The items of an array. -/
def items : Json → List Json
  | array items => items
  | _ => []

/-- The integer that a value is. -/
def integer? : Json → Option Int
  | number token => Number.integer? token
  | _ => none

/-- A field of an object, or null if it has no such field. -/
def field
    (json : Json)
    (name : String) : Json :=
  (json.members.lookup name.toList).getD null

end Json

/-- Counted in a JSON value, which need not have come from a schedule. -/
def Counts.ofJson (json : Json) : Counts where
  frames := (json.field "frames").members.length
  events := ((json.field "frames").members.flatMap (·.2.items)).length
  bullets :=
    (((json.field "frames").members.flatMap (·.2.items)).filterMap fun event =>
      (event.field "uid").integer?).toFinset.card
  lastFrame := ((json.field "frames").members.map fun member => digitsValue member.1).max?.getD 0

/-! ## Different things in a list -/

/-- Without repetitions a list has as many items as it has different ones. -/
theorem length_eraseDups
    {α : Type}
    [DecidableEq α]
    (items : List α) :
    items.eraseDups.length = items.toFinset.card := by
  match items with
  | [] => rfl
  | first :: rest =>
      have others : (rest.filter fun item => !item == first).toFinset = rest.toFinset.erase first := by
        ext item
        simp [and_comm]
      rw [List.eraseDups_cons, List.length_cons, length_eraseDups, others, List.toFinset_cons,
        ← Finset.erase_insert_eq_erase, Finset.card_erase_add_one (Finset.mem_insert_self _ _)]
termination_by items.length
decreasing_by exact Nat.lt_succ_of_le (List.length_filter_le _ _)

/-! ## Blocks -/

namespace Schedule

variable (blocks : List Block)

theorem values_ofBlocks :
    (ofBlocks blocks).schedule.frames.values =
      (ofBlocks blocks).schedule.frames.keys.map (eventsLeft blocks) := by
  rw [OrderedMap.values, OrderedMap.keys, List.map_map]
  refine List.map_congr_left fun entry member => ?_
  have scripted := eventsAt_ofBlocks blocks entry.1
  rw [eventsAt, OrderedMap.get?_eq_some_iff.mpr member] at scripted
  rw [Function.comp_apply, eventsLeft, ← scripted]
  rfl

theorem events_ofBlocks :
    (ofBlocks blocks).schedule.events =
      (ofBlocks blocks).schedule.frames.keys.flatMap (eventsLeft blocks) := by
  rw [events, values_ofBlocks, List.flatMap_def]

theorem eventCount_ofBlocks :
    (ofBlocks blocks).schedule.eventCount =
      ∑ frame ∈ frameNumbers blocks, (eventsLeft blocks frame).length := by
  rw [eventCount, events_ofBlocks, List.length_flatMap, frameNumbers,
    ← toFinset_keys_ofBlocks, List.sum_toFinset _ (OrderedMap.keys_nodup _)]

theorem bulletCount_ofBlocks :
    (ofBlocks blocks).schedule.bulletCount =
      ((frameNumbers blocks).biUnion fun frame =>
        ((eventsLeft blocks frame).map (·.uid)).toFinset).card := by
  rw [bulletCount, length_eraseDups, events_ofBlocks, frameNumbers, ← toFinset_keys_ofBlocks]
  congr 1
  ext uid
  simp only [List.map_flatMap, List.mem_toFinset, List.mem_flatMap, Finset.mem_biUnion]

end Schedule

theorem Counts.ofSchedule_ofBlocks (blocks : List Block) :
    Counts.ofSchedule (Schedule.ofBlocks blocks).schedule = Counts.ofBlocks blocks := by
  rw [ofSchedule, frameCount_ofBlocks, eventCount_ofBlocks, bulletCount_ofBlocks,
    lastFrame_ofBlocks]
  rfl

/-- Bullet 7 of the first block is gone with it, and a frame without events counts. -/
example (event : BulletEvent) :
    Counts.ofBlocks
        [⟨3, [{ event with uid := 7 }, event]⟩, ⟨5, []⟩, ⟨3, [{ event with uid := 8 }]⟩] =
      ⟨2, 1, 1, 5⟩ := by
  rfl

/-! ## JSON -/

theorem integer?_uid (event : BulletEvent) :
    (event.toJson.field "uid").integer? = some event.uid :=
  integer?_signed event.uid

theorem members_frames (schedule : Schedule) :
    (schedule.toJson.field "frames").members = schedule.frames.entries.map frameMember :=
  rfl

theorem items_members_frames (schedule : Schedule) :
    (schedule.toJson.field "frames").members.flatMap (·.2.items) =
      schedule.events.map BulletEvent.toJson := by
  rw [members_frames, events, OrderedMap.values, List.map_flatten, List.map_map, List.flatMap_def,
    List.map_map]
  rfl

theorem filterMap_uid (events : List BulletEvent) :
    (events.map BulletEvent.toJson).filterMap (fun event => (event.field "uid").integer?) =
      events.map (·.uid) := by
  simp only [List.filterMap_map, Function.comp_def, integer?_uid, List.filterMap_eq_map']

theorem map_digitsValue_members (schedule : Schedule) :
    ((schedule.toJson.field "frames").members.map fun member => digitsValue member.1) =
      schedule.frames.keys := by
  simp only [members_frames, List.map_map, Function.comp_def, frameMember, digitsValue_toDigits,
    OrderedMap.keys]

theorem Counts.ofJson_toJson (schedule : Schedule) :
    Counts.ofJson schedule.toJson = Counts.ofSchedule schedule := by
  rw [ofJson, items_members_frames, filterMap_uid, map_digitsValue_members, members_frames,
    List.length_map, List.length_map, ← length_eraseDups, OrderedMap.max?_keys]
  rfl

end Barrage
