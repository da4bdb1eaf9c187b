/-!
# The viewport

The play area as it is seen: a rectangle whose upper left corner has the
screen coordinates zero.  Bullets move in a plane with its origin in the
middle of the rectangle and its second axis upwards.

A bullet is gone once it has left the rectangle completely.  So a margin of
twice the radius of a bullet belongs to the play area on every side, although
it is not seen.
-/

namespace Barrage

/-- The seen part of the plane, by its size in pixels, and the radius of a bullet. -/
structure Viewport where
  width : Float := 800
  height : Float := 800
  bulletRadius : Float := 5
deriving DecidableEq, Repr

/-- A point of the screen, counted from the upper left corner of the viewport. -/
structure ScreenPoint where
  x : Float
  y : Float
deriving DecidableEq, Repr

namespace Viewport

/-- The width of the band around the viewport that belongs to the play area. -/
def margin (viewport : Viewport) : Float :=
  2 * viewport.bulletRadius

/-- Where a point of the plane is seen. -/
def toScreen
    (viewport : Viewport)
    (x y : Float) : ScreenPoint where
  x := viewport.width / 2 + x
  y := viewport.height / 2 - y

/-- Whether a point lies in the play area, its border included. -/
def containsWithMargin
    (viewport : Viewport)
    (point : ScreenPoint) : Bool :=
  let low := -viewport.margin
  let right := viewport.width + viewport.margin
  let bottom := viewport.height + viewport.margin
  low ≤ point.x && point.x ≤ right && (low ≤ point.y && point.y ≤ bottom)

/-- Whether a point is seen.  The border of the viewport is. -/
def contains
    (viewport : Viewport)
    (point : ScreenPoint) : Bool :=
  0 ≤ point.x && point.x ≤ viewport.width && (0 ≤ point.y && point.y ≤ viewport.height)

end Viewport

end Barrage
