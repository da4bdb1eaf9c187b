import Barrage.Document.Reader
import Barrage.Journal
import Barrage.Schedule.Basic
import Barrage.Schedule.Fault

/-!
# The layout of a document

A document is a list of its tag and frames.  A frame is a list of its tag,
its number, and bullets.  A bullet is a list of its tag and entries, each of
them a key with values.  Quote markers may stand anywhere.

The document is checked from the first entry to the last, and the first
fault ends the check.  Of several entries with one key in a bullet the last
one counts, entries with an unknown key mean nothing, and of several frames
with one number the last one counts.

A text is read as a document, and the document as a schedule.  A text that
fails in either step is refused as a whole.
-/

namespace Barrage.Schedule

open Barrage.Document Barrage.Number

/-! ## Bullets -/

/-- The entries of a bullet read so far. -/
structure BulletDraft where
  uid : Option Int := none
  position : Option (Float × Float) := none
  direction : Option Float := none
  speed : Option Float := none
deriving DecidableEq, Repr

namespace BulletDraft

/-- The keys without an entry. -/
def missing (draft : BulletDraft) : List FieldKey :=
  [(FieldKey.uid, draft.uid.isNone),
    (FieldKey.position, draft.position.isNone),
    (FieldKey.direction, draft.direction.isNone),
    (FieldKey.speed, draft.speed.isNone)].filterMap
    fun (key, absent) => if absent then some key else none

/-- The event, once every key has an entry. -/
def finish (draft : BulletDraft) : Except ShapeFault BulletEvent :=
  match draft.uid, draft.position, draft.direction, draft.speed with
  | some uid, some (x, y), some direction, some speed => .ok ⟨uid, x, y, direction, speed⟩
  | _, _, _, _ => .error (.missingFields draft.missing)

end BulletDraft

/-- The integer that a value denotes.  A real number is one when it is whole and in range. -/
def integerValue
    (key : FieldKey) : Node → Except ShapeFault Int
  | .integer value => .ok value
  | .real value =>
      match wholeNumber? value with
      | some whole => .ok whole
      | none => .error (.notInteger key (.real value))
  | .quoted inner => integerValue key inner
  | node => .error (.notInteger key (.ofNode node))

/-- The number that a value denotes.  An integer is rounded to the nearest binary number. -/
def numberValue
    (key : FieldKey) : Node → Except ShapeFault Float
  | .integer value => .ok (Float.ofInt value)
  | .real value => .ok value
  | .quoted inner => numberValue key inner
  | node => .error (.notNumber key (.ofNode node))

/-- The name and the values of an entry of a bullet. -/
def keyAndValues? (entry : Node) : Option (String × List Node) :=
  match entry.items? with
  | some (key :: values) => key.symbol?.map fun name => (name, values)
  | _ => none

/-- Read the values of a key. -/
def readField
    (draft : BulletDraft)
    (key : FieldKey)
    (values : List Node) : Except ShapeFault BulletDraft :=
  match key, values with
  | .uid, [value] => do return { draft with uid := ← integerValue key value }
  | .position, [first, second] => do
      let x ← numberValue key first
      let y ← numberValue key second
      return { draft with position := (x, y) }
  | .direction, [value] => do return { draft with direction := ← numberValue key value }
  | .speed, [value] => do return { draft with speed := ← numberValue key value }
  | _, _ => .error (.valueCount key values.length)

/-- Read an entry of a bullet. -/
def readEntry
    (draft : BulletDraft)
    (entry : Node) : Except ShapeFault BulletDraft :=
  match keyAndValues? entry with
  | none => .error (.fieldNotEntry entry.kind)
  | some (name, values) =>
      match FieldKey.ofName? name with
      | none => .ok draft
      | some key => readField draft key values

/-- The items after the tag of a list, which starts with the symbol `tag`. -/
def itemsAfterTag
    (tag : String)
    (notList : Kind → ShapeFault)
    (otherTag : ShapeFault)
    (node : Node) : Except ShapeFault (List Node) :=
  match node.items? with
  | none => .error (notList node.kind)
  | some [] => .error otherTag
  | some (first :: rest) => if first.isSymbol tag then .ok rest else .error otherTag

/-- Read a bullet. -/
def readBullet (node : Node) : Except ShapeFault BulletEvent := do
  let entries ← itemsAfterTag "bullet" .bulletNotList .bulletTag node
  let draft ← entries.foldlM readEntry {}
  draft.finish

/-! ## Frames -/

/-- A frame of a document: its number and its events. -/
structure Block where
  frame : Nat
  events : List BulletEvent
deriving DecidableEq, Repr

/-- The natural number that a frame is numbered with. -/
def frameNumber : Node → Except ShapeFault Nat
  | .integer value =>
      if 0 ≤ value then .ok value.toNat else .error (.frameNumber (.integer value))
  | .quoted inner => frameNumber inner
  | node => .error (.frameNumber (.ofNode node))

/-- Read the number of a frame, which comes first, and find its bullets. -/
def readHeader (node : Node) : Except ShapeFault (Nat × List Node) := do
  match ← itemsAfterTag "frame" .frameNotList .frameTag node with
  | [] => .error .frameNumberMissing
  | number :: bullets => return (← frameNumber number, bullets)

/-- Read a frame, which is the entry of the document with this index. -/
def readBlock
    (index : Nat)
    (node : Node) : Except Misshapen Block := do
  let (frame, bullets) ← (readHeader node).mapError (⟨.entry index, ·⟩)
  let events ← bullets.zipIdx.mapM fun (bullet, bulletIndex) =>
    (readBullet bullet).mapError (⟨.bullet index frame bulletIndex, ·⟩)
  return ⟨frame, events⟩

/-! ## Schedules -/

/-- A schedule with what was noted while it was built, oldest first. -/
structure Built where
  schedule : Schedule
  journal : List Record

/-- What was noted in an attempt to come to a schedule, oldest first, and what came of it. -/
structure Attempt (Fault : Type) where
  journal : List Record
  result : Except Fault Schedule

namespace Attempt

variable {Fault : Type}

/-- An attempt that fails before anything is noted. -/
def refuse (fault : Fault) : Attempt Fault :=
  ⟨[], .error fault⟩

/-- An attempt before which something was noted. -/
def after
    (records : List Record)
    (attempt : Attempt Fault) : Attempt Fault :=
  { attempt with journal := records ++ attempt.journal }

/-- The schedule of an attempt that succeeds, with what was noted. -/
def built (attempt : Attempt Fault) : Except Fault Built :=
  attempt.result.map fun schedule => ⟨schedule, attempt.journal⟩

end Attempt

/-- What is noted when a schedule is complete. -/
def completion (schedule : Schedule) : Record :=
  .scheduleBuilt schedule.frameCount schedule.eventCount schedule.lastFrame

/--
Script the frames of a document one after the other, up to the first that is
refused, and note which of them are scripted again.
-/
def scriptEntries (schedule : Schedule) : List (Node × Nat) → Attempt Misshapen
  | [] => ⟨[schedule.completion], .ok schedule⟩
  | entry :: rest =>
      match readBlock entry.2 entry.1 with
      | .error fault => .refuse fault
      | .ok block =>
          let insertion := schedule.insert block.frame block.events
          let noted := if insertion.replaced.isSome then [.frameRepeated block.frame] else []
          (scriptEntries insertion.schedule rest).after noted

/-- Attempt to build the schedule that a document describes. -/
def attemptBuild (document : Node) : Attempt Misshapen :=
  match itemsAfterTag "ftl" .documentNotList .documentTag document with
  | .error fault => .refuse ⟨.document, fault⟩
  | .ok entries => scriptEntries empty entries.zipIdx

/-- The schedule that a document describes, with what was noted. -/
def build (document : Node) : Except Misshapen Built :=
  (attemptBuild document).built

/-- The schedule that a document describes. -/
def ofNode (document : Node) : Except Misshapen Schedule :=
  (build document).map (·.schedule)

/-! ## Texts -/

/-- Why a text is not a schedule. -/
inductive LoadFault
  /-- The text is not one expression. -/
  | malformed (fault : Malformed)
  /-- The expression does not describe a schedule. -/
  | misshapen (fault : Misshapen)
deriving DecidableEq, Repr

/-- The words for a fault. -/
def LoadFault.message : LoadFault → String
  | malformed fault => fault.message
  | misshapen fault => fault.message

/-- Attempt to load the schedule that a text describes. -/
def attemptLoad (text : List Char) : Attempt LoadFault :=
  match readDocument text with
  | .error fault => .refuse (.malformed fault)
  | .ok document =>
      let attempt := attemptBuild document
      ⟨attempt.journal, attempt.result.mapError .misshapen⟩

/-- The schedule that a text describes, with what was noted. -/
def loadNoting (text : List Char) : Except LoadFault Built :=
  (attemptLoad text).built

/-- The schedule that a text describes. -/
def load (text : List Char) : Except LoadFault Schedule :=
  (loadNoting text).map (·.schedule)

end Barrage.Schedule
