import Barrage.CommandLine
import Barrage.Proofs.Json.Exporting
import Mathlib.Data.List.Forall2

/-!
# The written form of a schedule

Of a binary number a text tells only how it is written.  `Schedule.written` is
what is left of a schedule then.  Schedules have the same text exactly if they
are written alike, so nothing else is lost in the text: no frame, not the order
of events, and no bullet.
-/

namespace Barrage

open Barrage.Json Barrage.Number

/-! ## Numbers -/

/-- A number as texts have it. -/
def floatText (value : Float) : List Char :=
  (ofFloat value).compact

theorem ofFloat_eq_iff
    {value other : Float} :
    ofFloat value = ofFloat other ↔ floatText value = floatText other := by
  constructor
  · exact congrArg compact
  · exact compact_injective (isDense_ofFloat value).isProper (isDense_ofFloat other).isProper

theorem ofInt_inj
    {value other : Int} :
    ofInt value = ofInt other ↔ value = other := by
  constructor
  · intro same
    have read := integer?_signed value
    rw [number.inj same, integer?_signed] at read
    exact (Option.some.inj read).symm
  · exact congrArg ofInt

/-! ## What is written of a schedule -/

/-- An event, with its numbers as they are written. -/
structure WrittenEvent where
  uid : Int
  x : List Char
  y : List Char
  direction : List Char
  speed : List Char
deriving DecidableEq, Repr

/-- What is written of an event. -/
def BulletEvent.written (event : BulletEvent) : WrittenEvent where
  uid := event.uid
  x := floatText event.x
  y := floatText event.y
  direction := floatText event.direction
  speed := floatText event.speed

/-- What is written of a frame. -/
def writtenFrame (entry : Nat × List BulletEvent) : Nat × List WrittenEvent :=
  (entry.1, entry.2.map BulletEvent.written)

/-- What is written of a schedule: its frames in their order, with their events in order. -/
def Schedule.written (schedule : Schedule) : List (Nat × List WrittenEvent) :=
  schedule.frames.entries.map writtenFrame

/-! ## Written alike -/

/-- Functions that tell the same things apart tell the same lists apart. -/
theorem map_eq_map_iff_of_iff
    {α β γ : Type}
    {first : α → β}
    {second : α → γ}
    (alike : ∀ item other, first item = first other ↔ second item = second other)
    (items others : List α) :
    items.map first = others.map first ↔ items.map second = others.map second := by
  rw [← List.forall₂_eq_eq_eq, ← List.forall₂_eq_eq_eq, List.forall₂_map_left_iff,
    List.forall₂_map_right_iff, List.forall₂_map_left_iff, List.forall₂_map_right_iff]
  simp only [alike]

theorem BulletEvent.toJson_eq_iff (event other : BulletEvent) :
    event.toJson = other.toJson ↔ event.written = other.written := by
  simp [toJson, ofFields, written, ofInt_inj, ofFloat_eq_iff, and_assoc]

/-- A frame as a member of an object. -/
def frameMember (entry : Nat × List BulletEvent) : List Char × Json :=
  (Nat.toDigits 10 entry.1, .array (entry.2.map BulletEvent.toJson))

theorem frameMember_eq_iff (entry other : Nat × List BulletEvent) :
    frameMember entry = frameMember other ↔ writtenFrame entry = writtenFrame other := by
  have events := map_eq_map_iff_of_iff BulletEvent.toJson_eq_iff entry.2 other.2
  simp only [frameMember, writtenFrame, Prod.mk.injEq, toDigits_inj, Json.array.injEq, events]

namespace Schedule

variable (schedule other : Schedule)

theorem toJson_eq :
    schedule.toJson =
      .object [("frames".toList, .object (schedule.frames.entries.map frameMember))] :=
  rfl

theorem toJson_eq_iff : schedule.toJson = other.toJson ↔ schedule.written = other.written := by
  have frames :=
    map_eq_map_iff_of_iff frameMember_eq_iff schedule.frames.entries other.frames.entries
  simp only [toJson_eq, Json.object.injEq, List.cons.injEq, Prod.mk.injEq, and_true, true_and,
    frames, written]

end Schedule

/-! ## The text of a schedule -/

theorem BulletEvent.isDense_toJson (event : BulletEvent) : event.toJson.IsDense := by
  refine isDense_ofFields ?_
  simp only [List.forall_mem_cons]
  refine ⟨⟨by decide, isDense_ofInt _⟩, ⟨by decide, ?_⟩, ⟨by decide, isDense_ofFloat _⟩,
    ⟨by decide, isDense_ofFloat _⟩, List.forall_mem_nil _⟩
  refine isDense_array ?_
  simp only [List.forall_mem_cons]
  exact ⟨isDense_ofFloat _, isDense_ofFloat _, List.forall_mem_nil _⟩

theorem isDense_frameMember (entry : Nat × List BulletEvent) :
    (Token.text (frameMember entry).1).IsDense ∧ (frameMember entry).2.IsDense := by
  refine ⟨isDense_key entry.1, isDense_array ?_⟩
  intro item member
  obtain ⟨event, -, rfl⟩ := List.mem_map.mp member
  exact event.isDense_toJson

namespace Schedule

open CommandLine

theorem isDense_toJson (schedule : Schedule) : schedule.toJson.IsDense := by
  have noLayout : hasNoLayout (escape "frames".toList) = true := by decide
  refine isDense_ofFields (List.forall_mem_singleton.mpr ⟨noLayout, isDense_object ?_⟩)
  intro entry member
  obtain ⟨frame, -, rfl⟩ := List.mem_map.mp member
  exact isDense_frameMember frame

theorem toList_dumped (schedule : Schedule) :
    (dumped schedule).toList = schedule.toJson.pretty ++ ['\n'] :=
  String.toList_ofList

/-- The text that is dumped is read back. -/
theorem read?_dumped (schedule : Schedule) :
    Json.read? (dumped schedule).toList = some schedule.toJson := by
  rw [toList_dumped]
  exact read?_pretty schedule.isDense_toJson.isProper

/--
Schedules have the same text exactly if they are written alike: with the same
frames, and for every frame with the same bullets in the same order and with the
same numbers as texts have them.  In a text the frames stand in ascending order
of their numbers.  What is dumped is the same text, spread over lines.
-/
theorem json_is_unambiguous (schedule other : Schedule) :
    (schedule.toJson.compact = other.toJson.compact ↔ schedule.written = other.written) ∧
      (∃ members,
        Json.read? schedule.toJson.compact = some (.object [("frames".toList, .object members)]) ∧
          Json.read? (dumped schedule).toList =
              some (.object [("frames".toList, .object members)]) ∧
            members.map (·.1) = schedule.frames.keys.map (Nat.toDigits 10) ∧
              (members.map fun member => digitsValue member.1).Pairwise (· < ·)) ∧
        (dumped schedule).toList.filter (fun character => character ≠ ' ' ∧ character ≠ '\n') =
          schedule.toJson.compact := by
  have dense := schedule.isDense_toJson
  refine ⟨?_, ⟨schedule.frames.entries.map frameMember, ?_, ?_, ?_, ?_⟩, ?_⟩
  · rw [← toJson_eq_iff]
    constructor
    · exact compact_injective dense.isProper other.isDense_toJson.isProper
    · exact congrArg compact
  · exact read?_compact dense.isProper
  · exact read?_dumped schedule
  · rw [OrderedMap.keys, List.map_map, List.map_map]
    rfl
  · rw [List.map_map, List.pairwise_map]
    refine schedule.frames.ascending.imp fun ascending => ?_
    simpa [frameMember] using ascending
  · rw [toList_dumped, ← dense.filter_pretty]
    refine List.filter_congr fun character _ => ?_
    rw [isLayout, beq_eq_decide, beq_eq_decide]
    simp

end Schedule

end Barrage
