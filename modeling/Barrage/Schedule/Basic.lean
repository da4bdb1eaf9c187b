import Barrage.OrderedMap.Basic

/-!
# Schedules

A schedule lists for every scripted frame what happens in it: which bullets
appear, or are set anew, with their place, direction and speed.  The events
of a frame are kept in the order in which they were written.  A frame has one
list of events.  Scheduling it again replaces the list.
-/

namespace Barrage

/--
As of some frame, bullet `uid` is at this place and moves in this direction,
given in degrees, at this speed.
-/
structure BulletEvent where
  uid : Int
  x : Float
  y : Float
  direction : Float
  speed : Float
deriving DecidableEq, Repr

/-- The events of every scripted frame. -/
structure Schedule where
  frames : OrderedMap Nat (List BulletEvent)

namespace Schedule

/-- The schedule without frames. -/
def empty : Schedule := ⟨OrderedMap.empty⟩

instance : Inhabited Schedule := ⟨empty⟩

/-- The events of a frame, if the frame is scripted. -/
def eventsAt
    (schedule : Schedule)
    (frame : Nat) : Option (List BulletEvent) :=
  schedule.frames.get? frame

/-- A schedule after an insertion, with the events that had to give way. -/
structure Insertion where
  schedule : Schedule
  replaced : Option (List BulletEvent)

/-- Script a frame, in place of the events that it had. -/
def insert
    (schedule : Schedule)
    (frame : Nat)
    (events : List BulletEvent) : Insertion where
  schedule := ⟨schedule.frames.insert frame events⟩
  replaced := schedule.eventsAt frame

/-- The greatest scripted frame, or zero if there is none. -/
def lastFrame (schedule : Schedule) : Nat :=
  schedule.frames.lastKey?.getD 0

/-- The number of scripted frames. -/
def frameCount (schedule : Schedule) : Nat :=
  schedule.frames.size

/-- Whether no frame is scripted. -/
def isEmpty (schedule : Schedule) : Bool :=
  schedule.frames.isEmpty

/-- All events, frame by frame. -/
def events (schedule : Schedule) : List BulletEvent :=
  schedule.frames.values.flatten

/-- The number of events in all frames. -/
def eventCount (schedule : Schedule) : Nat :=
  schedule.events.length

/-- The number of different bullets in a schedule. -/
def bulletCount (schedule : Schedule) : Nat :=
  (schedule.events.map (·.uid)).eraseDups.length

end Schedule

end Barrage
