import Barrage.Proofs.Json.Scalars
import Barrage.Settings.Reading

/-!
# What a settings file says

A settings file is an object, and so are the viewport and the canvas in it.  An
object says something about a name if it has one value under this name and the
value is of the right kind.  It may leave out some names, which then stand for
their defaults.  The order of the members does not matter, and neither do members
under other names.

`Describes` says which settings an object describes.
-/

namespace Barrage.Settings

open Barrage.Json

/-! ## Values under names -/

/-- The values of an object under a name, in order.  A key counts by what it stands for. -/
def valuesUnder
    (members : List (List Char × Json))
    (name : String) : List Json :=
  (members.filter fun member => content? member.1 = some name.toList).map (·.2)

/-- Every key stands for a text. -/
def HasReadableKeys (members : List (List Char × Json)) : Prop :=
  ∀ member ∈ members, (content? member.1).isSome = true

section Gives

variable {α : Type}

/-- An object has one value under a name, and this value stands for `value`. -/
def Gives
    (members : List (List Char × Json))
    (name : String)
    (isKind : Json → α → Prop)
    (value : α) : Prop :=
  ∃ json, valuesUnder members name = [json] ∧ isKind json value

/-- An object has one value under a name, or none, which stands for the default. -/
def GivesOrOmits
    (members : List (List Char × Json))
    (name : String)
    (isKind : Json → α → Prop)
    (default value : α) : Prop :=
  (valuesUnder members name = [] ∧ value = default) ∨ Gives members name isKind value

end Gives

/-! ## Kinds of values -/

/-- A number that denotes a finite binary number.  An integer denotes the nearest one. -/
def IsReal
    (json : Json)
    (value : Float) : Prop :=
  value.isFinite = true ∧
    ∃ token, json = .number token ∧
      ((∃ whole, numberValue? token = some (.integer whole) ∧ Float.ofInt whole = value) ∨
        numberValue? token = some (.real value))

/-- A natural number: its digits, without a sign, a point or an exponent. -/
def IsNatural
    (json : Json)
    (value : Nat) : Prop :=
  json = .ofNat value

/-- A text with some content. -/
def IsText
    (json : Json)
    (content : List Char) : Prop :=
  ∃ body, json = .text body ∧ content? body = some content

/-- A colour: its name as a text, or an object with its three parts, numbers of 8 bits. -/
def IsColor (json : Json) : MarkerColor → Prop
  | .named color => IsText json color.name.toList
  | .rgb red green blue =>
      ∃ parts, json = .object parts ∧
        Gives parts "r" IsNatural red.toNat ∧
          Gives parts "g" IsNatural green.toNat ∧
            Gives parts "b" IsNatural blue.toNat

/-- A viewport: an object with its three numbers. -/
def IsViewport
    (json : Json)
    (viewport : Viewport) : Prop :=
  ∃ members, json = .object members ∧
    Gives members "width" IsReal viewport.width ∧
      Gives members "height" IsReal viewport.height ∧
        Gives members "bullet_radius" IsReal viewport.bulletRadius

/-- A canvas: an object with its size, and with a marker and its colour unless they are omitted. -/
def IsCanvas
    (json : Json)
    (canvas : CanvasSettings) : Prop :=
  ∃ members, json = .object members ∧
    Gives members "columns" IsNatural canvas.columns.toNat ∧
      Gives members "rows" IsNatural canvas.rows.toNat ∧
        GivesOrOmits members "marker" (fun json marker => IsText json [marker])
            ({} : CanvasSettings).marker canvas.marker ∧
          GivesOrOmits members "marker_color" IsColor ({} : CanvasSettings).markerColor
            canvas.markerColor

/-- The settings that an object describes. -/
def Describes
    (members : List (List Char × Json))
    (settings : Settings) : Prop :=
  GivesOrOmits members "viewport" IsViewport ({} : Settings).viewport settings.viewport ∧
    GivesOrOmits members "fps" IsNatural ({} : Settings).rate.toNat settings.rate.toNat ∧
      GivesOrOmits members "canvas" IsCanvas ({} : Settings).canvas settings.canvas

/-! ## Objects in objects -/

/-- Every key is the name of one of the three parts of a colour. -/
def HasPartsOnly (parts : List (List Char × Json)) : Prop :=
  ∀ part ∈ parts, ∃ name ∈ ["r", "g", "b"], content? part.1 = some name.toList

/--
The viewport and the canvas are objects, and a colour that is an object has its
three parts only.
-/
structure IsPlain (members : List (List Char × Json)) : Prop where
  viewport : ∀ json ∈ valuesUnder members "viewport", ∃ inner, json = .object inner
  canvas : ∀ json ∈ valuesUnder members "canvas", ∃ inner, json = .object inner
  color : ∀ inner, .object inner ∈ valuesUnder members "canvas" →
    ∀ parts, .object parts ∈ valuesUnder inner "marker_color" →
      HasPartsOnly parts

/-- Every key stands for a text, also in the viewport and in the canvas. -/
structure IsReadable (members : List (List Char × Json)) : Prop where
  here : HasReadableKeys members
  viewport : ∀ inner, .object inner ∈ valuesUnder members "viewport" → HasReadableKeys inner
  canvas : ∀ inner, .object inner ∈ valuesUnder members "canvas" → HasReadableKeys inner

end Barrage.Settings
