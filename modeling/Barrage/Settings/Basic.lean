import Barrage.Number.Binary
import Barrage.Number.Numeral
import Barrage.Playback.Viewport
import Barrage.Text.Characters

/-!
# Settings

What a player can be told: the viewport, the number of ticks per second, the
size of the canvas, and the character and colour of its marks.

The number of ticks per second can also be set from outside, by a text that
holds a positive integer.
-/

namespace Barrage

open Barrage.Number Barrage.Text

/-- The colours that have a name. -/
inductive NamedColor
  | red
  | yellow
  | cyan
  | magenta
  | white
deriving DecidableEq, Repr

namespace NamedColor

/-- The colours in order. -/
def all : List NamedColor := [red, yellow, cyan, magenta, white]

/-- The name of a colour. -/
def name : NamedColor → String
  | red => "red"
  | yellow => "yellow"
  | cyan => "cyan"
  | magenta => "magenta"
  | white => "white"

/-- The colour with a name. -/
def ofName? (name : List Char) : Option NamedColor :=
  all.find? fun color => color.name.toList == name

theorem ofName?_name (color : NamedColor) : ofName? color.name.toList = some color := by
  cases color <;> decide

end NamedColor

/-- The colour of a mark. -/
inductive MarkerColor
  | named (color : NamedColor)
  | rgb (red green blue : UInt8)
deriving DecidableEq, Repr

/-- The area of the terminal that the viewport is drawn on, and its marks. -/
structure CanvasSettings where
  columns : UInt16 := 80
  rows : UInt16 := 40
  marker : Char := '●'
  markerColor : MarkerColor := .named .red
deriving DecidableEq, Repr

/-- What a player can be told. -/
structure Settings where
  viewport : Viewport := {}
  /-- The number of ticks per second. -/
  rate : UInt32 := 60
  canvas : CanvasSettings := {}
deriving DecidableEq, Repr

/-- What is said about settings that cannot be used. -/
inductive Warning
  /-- The settings file cannot be used. -/
  | invalidFile
  /-- The rate set from outside cannot be used. -/
  | invalidRate
deriving DecidableEq, Repr

/-- The words of a warning. -/
def Warning.message : Warning → String
  | invalidFile => "invalid player config, using defaults"
  | invalidRate => "ignoring FTL_PLAYER_FPS: expected a positive integer"

namespace Settings

/-- The rate that a word denotes: digits with an optional plus sign, of a positive 32-bit value. -/
def rateOfWord? (word : List Char) : Option UInt32 :=
  match naturalBelow? 0x100000000 word with
  | some value => if 0 < value then some (UInt32.ofNat value) else none
  | none => none

/-- Settings with a warning, where something could not be used. -/
structure Loaded where
  settings : Settings
  warnings : List Warning
deriving DecidableEq, Repr

/-- Set the rate from outside. -/
def Loaded.overrideRate
    (loaded : Loaded)
    (word : Option (List Char)) : Loaded :=
  match word with
  | none => loaded
  | some word =>
      match rateOfWord? (trim word) with
      | some rate => { loaded with settings := { loaded.settings with rate := rate } }
      | none => { loaded with warnings := loaded.warnings ++ [.invalidRate] }

/-- The time of one tick in nanoseconds, rounded.  A rate of zero counts as one. -/
def tickNanoseconds (settings : Settings) : Nat :=
  let rate := max settings.rate.toNat 1
  match Binary.ofFloat (1 / Float.ofNat rate) with
  | .finite _ significand exponent =>
      roundedQuotient
        (significand * 1000000000 * Nat.pow 2 exponent.toNat)
        (Nat.pow 2 (-exponent).toNat)
  | _ => 0

end Settings

end Barrage
