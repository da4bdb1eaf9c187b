import Barrage.Number.Binary
import Barrage.Playback.Viewport
import Barrage.Schedule.Basic

/-!
# Projectiles

A bullet in flight: its place in the plane, its heading and its speed.  The
heading is an angle in radians, from zero up to a full turn, counted against
the clock from the first axis.  An event sets a projectile anew, and nothing
of its earlier flight is kept.
-/

namespace Barrage

open Barrage.Number

/-! ## Headings -/

/-- Half a turn in radians. -/
def halfTurn : Float := 3.141592653589793

/-- A full turn in radians. -/
def fullTurn : Float := 6.283185307179586

/-- An angle in degrees, brought between zero and a full turn. -/
def wrapDegrees (degrees : Float) : Float :=
  let rest := remainder degrees 360
  if rest < 0 then rest + 360 else rest

/--
The heading for a direction in degrees.  A tiny negative angle is rounded to
a full turn, which is no turn at all.
-/
def headingOfDegrees (degrees : Float) : Float :=
  let wrapped := wrapDegrees degrees
  let wrapped := if 360 ≤ wrapped then 0 else wrapped
  let radians := wrapped * (halfTurn / 180)
  if fullTurn ≤ radians then 0 else radians

/-- The cosine of an angle, which is one for a zero angle. -/
def cosine (angle : Float) : Float :=
  if angle == 0 then 1 else angle.cos

/-- The sine of an angle, which is the angle itself for a zero angle. -/
def sine (angle : Float) : Float :=
  if angle == 0 then angle else angle.sin

/-! ## Bullets in flight -/

/-- A bullet in flight. -/
structure Projectile where
  uid : Int
  x : Float
  y : Float
  heading : Float
  speed : Float
deriving DecidableEq, Repr

/-- What is shown of a bullet after a tick. -/
structure LiveEntity where
  uid : Int
  /-- The place in the plane. -/
  x : Float
  y : Float
  /-- The place on the screen. -/
  screen : ScreenPoint
deriving DecidableEq, Repr

namespace Projectile

/-- Set a projectile anew. -/
def overwrite
    (projectile : Projectile)
    (event : BulletEvent) : Projectile :=
  { projectile with
    x := event.x
    y := event.y
    heading := headingOfDegrees event.direction
    speed := event.speed }

/-- The projectile that an event brings forth. -/
def ofEvent (event : BulletEvent) : Projectile :=
  overwrite ⟨event.uid, 0, 0, 0, 0⟩ event

/-- Move along the heading for some time. -/
def advance
    (projectile : Projectile)
    (time : Float) : Projectile :=
  { projectile with
    x := projectile.x + projectile.speed * time * cosine projectile.heading
    y := projectile.y + projectile.speed * time * sine projectile.heading }

/-- What is shown of a projectile. -/
def snapshot
    (projectile : Projectile)
    (viewport : Viewport) : LiveEntity where
  uid := projectile.uid
  x := projectile.x
  y := projectile.y
  screen := viewport.toScreen projectile.x projectile.y

/-- Whether a projectile is in the play area. -/
def isInside
    (projectile : Projectile)
    (viewport : Viewport) : Bool :=
  viewport.containsWithMargin (projectile.snapshot viewport).screen

/-- Nothing of the earlier flight is kept. -/
theorem overwrite_eq_ofEvent
    (projectile : Projectile)
    (event : BulletEvent)
    (sameBullet : projectile.uid = event.uid) :
    projectile.overwrite event = ofEvent event := by
  simp [overwrite, ofEvent, sameBullet]

@[simp]
theorem uid_overwrite
    (projectile : Projectile)
    (event : BulletEvent) :
    (projectile.overwrite event).uid = projectile.uid := rfl

@[simp]
theorem uid_ofEvent (event : BulletEvent) : (ofEvent event).uid = event.uid := rfl

@[simp]
theorem uid_advance
    (projectile : Projectile)
    (time : Float) :
    (projectile.advance time).uid = projectile.uid := rfl

@[simp]
theorem uid_snapshot
    (projectile : Projectile)
    (viewport : Viewport) :
    (projectile.snapshot viewport).uid = projectile.uid := rfl

end Projectile

end Barrage
