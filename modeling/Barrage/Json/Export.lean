import Barrage.Json.Syntax
import Barrage.Json.Text
import Barrage.Number.Written
import Barrage.Schedule.Basic
import Barrage.Settings.Basic

/-!
# Schedules and settings as JSON

The JSON values for schedules and settings.  Fields are written in a fixed
order, frames in ascending order of their numbers.  A number that is not
finite is written as null.
-/

namespace Barrage

open Barrage.Number

namespace Json

/-- A number, or null if it is not finite. -/
def ofFloat (value : Float) : Json :=
  match exchanged? value with
  | some token => number token
  | none => null

/-- A natural number. -/
def ofNat (value : Nat) : Json :=
  number (Nat.toDigits 10 value)

/-- An integer. -/
def ofInt (value : Int) : Json :=
  number (signed (value < 0) (Nat.toDigits 10 value.natAbs))

/-- A text with some content. -/
def ofText (content : List Char) : Json :=
  text (escape content)

/-- A record with its fields in order. -/
def ofFields (fields : List (String × Json)) : Json :=
  object (fields.map fun (name, value) => (escape name.toList, value))

end Json

/-- An event as JSON. -/
def BulletEvent.toJson (event : BulletEvent) : Json :=
  .ofFields
    [("uid", .ofInt event.uid),
      ("position", .array [.ofFloat event.x, .ofFloat event.y]),
      ("direction_degrees", .ofFloat event.direction),
      ("speed", .ofFloat event.speed)]

/-- A schedule as JSON: for every frame, under its number, the events in order. -/
def Schedule.toJson (schedule : Schedule) : Json :=
  .ofFields
    [("frames",
      .object
        (schedule.frames.entries.map fun (frame, events) =>
          (Nat.toDigits 10 frame, .array (events.map BulletEvent.toJson))))]

/-- The colour of a mark as JSON. -/
def MarkerColor.toJson : MarkerColor → Json
  | named color => .ofText color.name.toList
  | rgb red green blue =>
      .ofFields
        [("r", .ofNat red.toNat), ("g", .ofNat green.toNat), ("b", .ofNat blue.toNat)]

/-- A viewport as JSON. -/
def Viewport.toJson (viewport : Viewport) : Json :=
  .ofFields
    [("width", .ofFloat viewport.width),
      ("height", .ofFloat viewport.height),
      ("bullet_radius", .ofFloat viewport.bulletRadius)]

/-- A canvas as JSON. -/
def CanvasSettings.toJson (canvas : CanvasSettings) : Json :=
  .ofFields
    [("columns", .ofNat canvas.columns.toNat),
      ("rows", .ofNat canvas.rows.toNat),
      ("marker", .ofText [canvas.marker]),
      ("marker_color", canvas.markerColor.toJson)]

/-- Settings as JSON. -/
def Settings.toJson (settings : Settings) : Json :=
  .ofFields
    [("viewport", settings.viewport.toJson),
      ("fps", .ofNat settings.rate.toNat),
      ("canvas", settings.canvas.toJson)]

end Barrage
