import Barrage.Json.Reader
import Barrage.Settings.Basic

/-!
# Reading settings

A settings file is a JSON text.  It is used as a whole or not at all.  A
record is written as an object, or as an array of its fields in order whose
last fields may be missing.  In an object, unknown keys are passed over, but a
known key may occur only once.

The colour of a mark is looked at in two ways, as a name and as an object of
its three parts.  So it is read completely beforehand, and everything in it
has to be of some value and of limited depth.
-/

namespace Barrage.Settings

open Barrage.Json

/-! ## Records -/

/-- The value of a member that may occur at most once.  The keys are given by content. -/
def uniqueMember?
    (members : List (List Char × Json))
    (name : String) : Option (Option Json) :=
  match members.filter fun member => member.1 == name.toList with
  | [] => some none
  | [member] => some (some member.2)
  | _ => none

/-- The members of an object with the content of their keys. -/
def withKeyContents? (members : List (List Char × Json)) : Option (List (List Char × Json)) :=
  members.mapM fun (key, value) => (content? key).map fun content => (content, value)

/-- The fields of an object, by name.  A field may be missing. -/
def objectFields?
    (names : List String)
    (members : List (List Char × Json)) : Option (List (Option Json)) := do
  let members ← withKeyContents? members
  names.mapM (uniqueMember? members)

/-- The fields of a record.  A field may be missing. -/
def fields?
    (names : List String) : Json → Option (List (Option Json))
  | .object members => objectFields? names members
  | .array items =>
      if items.length ≤ names.length then
        some (items.map some ++ List.replicate (names.length - items.length) none)
      else none
  | _ => none

/-- Read a field, or take a value for a field that is missing. -/
def orDefault?
    {α : Type}
    (read? : Json → Option α)
    (default : α) : Option Json → Option α
  | none => some default
  | some json => read? json

/-! ## Scalars -/

/-- Read a number.  Integers are numbers. -/
def real? : Json → Option Float
  | .number token =>
      match numberValue? token with
      | some (.integer value) => some (Float.ofInt value)
      | some (.real value) => some value
      | none => none
  | _ => none

/-- Read a natural number below a limit. -/
def natural?
    (limit : Nat) : Json → Option Nat
  | .number token =>
      match numberValue? token with
      | some (.integer (.ofNat value)) => if value < limit then some value else none
      | _ => none
  | _ => none

/-- Read a text of one character. -/
def character? : Json → Option Char
  | .text body =>
      match content? body with
      | some [character] => some character
      | _ => none
  | _ => none

mutual

/--
Whether every text has a content, every number a value, and arrays and
objects are nested at most `depth` deep.
-/
def isReadable (depth : Nat) : Json → Bool
  | .null | .boolean _ => true
  | .number token => (numberValue? token).isSome
  | .text body => (content? body).isSome
  | .array items => 0 < depth && areItemsReadable (depth - 1) items
  | .object members => 0 < depth && areMembersReadable (depth - 1) members

/-- Whether all items are readable. -/
def areItemsReadable (depth : Nat) : List Json → Bool
  | [] => true
  | item :: rest => isReadable depth item && areItemsReadable depth rest

/-- Whether all members are readable. -/
def areMembersReadable (depth : Nat) : List (List Char × Json) → Bool
  | [] => true
  | (key, value) :: rest =>
      (content? key).isSome && isReadable depth value && areMembersReadable depth rest

end

/-! ## Colours -/

/-- The depth to which the colour of a mark may be nested. -/
def colorDepth : Nat := 125

/-- Read the name of a colour: a text, or an object with the name as its only key and null. -/
def namedColor? : Json → Option NamedColor
  | .text body => (content? body).bind NamedColor.ofName?
  | .object [(key, .null)] => (content? key).bind NamedColor.ofName?
  | _ => none

/-- Read the three parts of a colour. -/
def rgbColor? : Json → Option MarkerColor
  | .object members => do
      match ← objectFields? ["r", "g", "b"] members with
      | [some red, some green, some blue] =>
          let red ← natural? 256 red
          let green ← natural? 256 green
          let blue ← natural? 256 blue
          some (.rgb (UInt8.ofNat red) (UInt8.ofNat green) (UInt8.ofNat blue))
      | _ => none
  | _ => none

/-- Read the colour of a mark. -/
def markerColor? (json : Json) : Option MarkerColor :=
  if isReadable colorDepth json then
    match namedColor? json with
    | some color => some (.named color)
    | none => rgbColor? json
  else none

/-! ## Settings -/

/-- Read a viewport, which has all its fields. -/
def viewport? (json : Json) : Option Viewport := do
  match ← fields? ["width", "height", "bullet_radius"] json with
  | [some width, some height, some radius] =>
      let width ← real? width
      let height ← real? height
      let radius ← real? radius
      some ⟨width, height, radius⟩
  | _ => none

/-- Read a canvas, which has a size. -/
def canvas? (json : Json) : Option CanvasSettings := do
  match ← fields? ["columns", "rows", "marker", "marker_color"] json with
  | [some columns, some rows, marker, color] =>
      let columns ← natural? 0x10000 columns
      let rows ← natural? 0x10000 rows
      let defaults : CanvasSettings := {}
      let marker ← orDefault? character? defaults.marker marker
      let color ← orDefault? markerColor? defaults.markerColor color
      some ⟨UInt16.ofNat columns, UInt16.ofNat rows, marker, color⟩
  | _ => none

/-- Read settings. -/
def ofJson? (json : Json) : Option Settings := do
  match ← fields? ["viewport", "fps", "canvas"] json with
  | [viewport, rate, canvas] =>
      let defaults : Settings := {}
      let viewport ← orDefault? viewport? defaults.viewport viewport
      let rate ← orDefault? (natural? 0x100000000) defaults.rate.toNat rate
      let canvas ← orDefault? canvas? defaults.canvas canvas
      some ⟨viewport, UInt32.ofNat rate, canvas⟩
  | _ => none

/-- Settings from a settings file, or the defaults where there is none that can be used. -/
def ofFile (file : Option (List Char)) : Loaded :=
  match file with
  | none => ⟨{}, []⟩
  | some contents =>
      match (Json.read? contents).bind ofJson? with
      | some settings => ⟨settings, []⟩
      | none => ⟨{}, [.invalidFile]⟩

/-- Settings from a settings file, with the rate that is set from outside. -/
def load
    (file : Option (List Char))
    (rate : Option (List Char)) : Loaded :=
  (ofFile file).overrideRate rate

end Barrage.Settings
