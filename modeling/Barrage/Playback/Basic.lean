import Barrage.Journal
import Barrage.Playback.Projectile

/-!
# Playback

A schedule is played one tick at a time.  A tick applies the events of the
frame under the cursor in their order, moves every projectile for one unit of
time, and retires those that have left the play area.  Playback is over when
every scripted frame has been applied and no projectile is in flight.

A tick answers with the projectiles that are left, in ascending order of
their bullets, and with a record of everything that happened to one of them.
-/

namespace Barrage

/-! ## Phases -/

/-- How far playback has come. -/
inductive Phase
  /-- Scripted frames remain. -/
  | running
  /-- Every scripted frame has been applied, and projectiles are in flight. -/
  | draining
  /-- Nothing is scripted any more and nothing is in flight. -/
  | finished
deriving DecidableEq, Repr

/-! ## The registry -/

/-- The projectiles in flight, by their bullets. -/
abbrev Registry := OrderedMap Int Projectile

namespace Registry

/-- The effect of an event, with its record. -/
def apply
    (frame : Nat)
    (registry : Registry)
    (event : BulletEvent) : Registry × Record :=
  match registry.get? event.uid with
  | none => (registry.insert event.uid (.ofEvent event), .created event.uid frame)
  | some projectile =>
      (registry.insert event.uid (projectile.overwrite event), .updated event.uid frame)

/-- The effect of the events of a frame, one after the other, with their records. -/
def applyAll
    (frame : Nat)
    (registry : Registry) : List BulletEvent → Registry × List Record
  | [] => (registry, [])
  | event :: rest =>
      let (next, record) := registry.apply frame event
      let (last, records) := applyAll frame next rest
      (last, record :: records)

/-- Every projectile moved for one unit of time. -/
def advance (registry : Registry) : Registry :=
  registry.mapValues (·.advance 1)

/-- The projectiles in the play area. -/
def inside
    (registry : Registry)
    (viewport : Viewport) : Registry :=
  registry.filterValues (·.isInside viewport)

/-- The projectiles that have left the play area. -/
def outside
    (registry : Registry)
    (viewport : Viewport) : Registry :=
  registry.filterValues (!·.isInside viewport)

/-- What is shown of the projectiles, in ascending order of their bullets. -/
def snapshots
    (registry : Registry)
    (viewport : Viewport) : List LiveEntity :=
  registry.values.map (·.snapshot viewport)

end Registry

/-! ## Ticks -/

/-- A schedule in the middle of being played. -/
structure Playback where
  schedule : Schedule
  registry : Registry
  /-- The frame that the next tick applies. -/
  cursor : Nat
  lastFrame : Nat
  viewport : Viewport
  phase : Phase

/-- What a tick shows. -/
structure Tick where
  /-- The projectiles in flight, in ascending order of their bullets. -/
  entities : List LiveEntity
  finished : Bool
deriving DecidableEq, Repr

/-- Playback after a tick, with what the tick shows and its records, oldest first. -/
structure Stepped where
  playback : Playback
  tick : Tick
  journal : List Record

namespace Playback

/-- Playback of a schedule from its start. -/
def start
    (schedule : Schedule)
    (viewport : Viewport) : Playback where
  schedule := schedule
  registry := .empty
  cursor := 0
  lastFrame := schedule.lastFrame
  viewport := viewport
  phase := .running

/-- The number of projectiles in flight. -/
def liveCount (playback : Playback) : Nat :=
  playback.registry.size

/-- What is shown of the projectiles in flight. -/
def entities (playback : Playback) : List LiveEntity :=
  playback.registry.snapshots playback.viewport

/-- Whether playback is over. -/
def isFinished (playback : Playback) : Bool :=
  playback.phase == .finished

/-- How far playback has come when these projectiles are in flight and this frame is next. -/
def phaseAt
    (playback : Playback)
    (registry : Registry)
    (cursor : Nat) : Phase :=
  if cursor ≤ playback.lastFrame then .running
  else if registry.isEmpty then .finished
  else .draining

/-- Play the next tick.  Once playback is over, a tick changes and shows nothing. -/
def step (playback : Playback) : Stepped :=
  if playback.phase = .finished then ⟨playback, ⟨[], true⟩, []⟩
  else
    let frame := playback.cursor
    let events := (playback.schedule.eventsAt frame).getD []
    let (applied, changes) := playback.registry.applyAll frame events
    let moved := applied.advance
    let kept := moved.inside playback.viewport
    let departures := (moved.outside playback.viewport).keys.map (Record.left · frame)
    let cursor := frame + 1
    let phase := playback.phaseAt kept cursor
    let ending := if phase = .finished then [Record.finished cursor] else []
    { playback := { playback with registry := kept, cursor := cursor, phase := phase }
      tick := ⟨kept.snapshots playback.viewport, phase == .finished⟩
      journal := changes ++ departures ++ ending }

/-! ## Runs -/

/-- Playback after a number of ticks. -/
def afterSteps (playback : Playback) : Nat → Playback
  | 0 => playback
  | count + 1 => (playback.afterSteps count).step.playback

/-- The records of a number of ticks, oldest first. -/
def journalOfSteps (playback : Playback) : Nat → List Record
  | 0 => []
  | count + 1 =>
      let stepped := playback.step
      stepped.journal ++ stepped.playback.journalOfSteps count

@[simp]
theorem afterSteps_zero (playback : Playback) : playback.afterSteps 0 = playback := rfl

theorem afterSteps_succ
    (playback : Playback)
    (count : Nat) :
    playback.afterSteps (count + 1) = (playback.afterSteps count).step.playback := rfl

/-- Once playback is over, a tick changes nothing. -/
theorem step_of_finished
    {playback : Playback}
    (finished : playback.phase = .finished) :
    playback.step = ⟨playback, ⟨[], true⟩, []⟩ := by
  simp [step, finished]

end Playback

end Barrage
