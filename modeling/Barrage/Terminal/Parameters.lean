import Barrage.Number.Numeral
import Barrage.Terminal.Key

/-!
# Parameters

Many sequences that a terminal sends have parameters, with a semicolon between
two of them.  A colon divides a parameter further.  This module says which
parameters tell something, and which key they tell where they tell one by its
number.

A number is one or more digits, possibly after a plus sign, below a limit.
-/

namespace Barrage.Terminal

open Barrage.Number

/-- Parameters as they are sent. -/
abbrev Parameters := List Char

/-- The parts of a text between separators, of which there is always one. -/
def parts (separator : Char) : List Char → List (List Char)
  | [] => [[]]
  | character :: rest =>
      if character == separator then [] :: parts separator rest
      else
        match parts separator rest with
        | [] => [[character]]
        | part :: later => (character :: part) :: later

/-- The part of a text at a place among the separators, empty if there is none. -/
def partAt
    (separator : Char)
    (place : Nat)
    (text : List Char) : List Char :=
  (parts separator text)[place]?.getD []

/-! ## How a key is held -/

/-- Which modifiers are held down with a key, and whether the key is pressed. -/
structure Holding where
  shift : Bool := false
  control : Bool := false
  pressed : Bool := true
deriving DecidableEq, Repr

namespace Holding

/--
Read how a key is held: the sum of the modifiers and one, where shift counts
one and control four, and then whether the key is pressed, repeated or let
go.  Without modifiers the rest does not count.
-/
def ofParameter (parameter : List Char) : Holding :=
  match naturalBelow? 256 (partAt ':' 0 parameter) with
  | none => {}
  | some sum =>
      let kind := naturalBelow? 256 (partAt ':' 1 parameter)
      { shift := (sum - 1).testBit 0
        control := (sum - 1).testBit 2
        pressed := kind ≠ some 2 ∧ kind ≠ some 3 }

/-- A key that is a modifier counts as held down. -/
def holdDown
    (holding : Holding)
    (number : Nat) : Holding :=
  { holding with
    shift := holding.shift || number == 57441 || number == 57447
    control := holding.control || number == 57442 || number == 57448 }

end Holding

/-! ## Keys with a number -/

/-- The key with the number of a character.  Characters for private use are names of keys. -/
def KeyCode.ofNumbered (character : Char) : KeyCode :=
  if character == '\x1b' then .escape
  else if character == '\r' || character == '\t' || character == '\x7f' then .other
  else if '\ue000' ≤ character && character ≤ '\uf8ff' then .other
  else .character character

namespace Parameters

/-- The number at a place among parameters, if it is below a limit. -/
def number?
    (limit place : Nat)
    (parameters : Parameters) : Option Nat :=
  naturalBelow? limit (partAt ';' place parameters)

/-- The character at a place in the first parameter, told by its number. -/
def character?
    (place : Nat)
    (parameters : Parameters) : Option Char :=
  match naturalBelow? 0x110000 (partAt ':' place (partAt ';' 0 parameters)) with
  | some number => if number.isValidChar then some (Char.ofNat number) else none
  | none => none

/--
The key that parameters tell by its number.  The first parameter is the number
and after it, for when the shift key is held down, the number of the character
that the key types then.  The second parameter tells how the key is held.
-/
def key? (parameters : Parameters) : Option Key :=
  match parameters.character? 0 with
  | none => none
  | some character =>
      let holding := (Holding.ofParameter (partAt ';' 1 parameters)).holdDown character.toNat
      let code :=
        match if holding.shift then parameters.character? 1 else none with
        | some typed => .character typed
        | none => .ofNumbered character
      some { code := code, control := holding.control, pressed := holding.pressed }

/-- Whether parameters tell a key of a list that numbers the keys without characters. -/
def tellListedKey (parameters : Parameters) : Bool :=
  match parameters.number? 256 0 with
  | some number =>
      (1 ≤ number && number ≤ 8) ||
        (11 ≤ number && number ≤ 34 && [16, 22, 27, 30].all (· ≠ number))
  | none => false

/--
Whether a letter after parameters tells a key.  They say how it is held, in
the second parameter or at least with the last digit.
-/
def tellKeyWith
    (letter : Char)
    (parameters : Parameters) : Bool :=
  "ABCDFHPQS".toList.contains letter &&
    ((naturalBelow? 256 (partAt ':' 0 (partAt ';' 1 parameters))).isSome ||
      parameters.getLast?.any isDigit)

/-! ## Other parameters -/

/-- Whether parameters tell a position. -/
def tellPosition (parameters : Parameters) : Bool :=
  (parameters.number? 0x10000 0).isSome && (parameters.number? 0x10000 1).isSome

/--
Whether a number tells what a mouse does.  Its bits are two for the button,
one for each of three modifiers, one for dragging, and two for more buttons.
There are eight, and the last two cannot be dragged.
-/
def isMouseAction (number : Nat) : Bool :=
  let button := number % 4 + number / 64 * 4
  button < 6 || (button < 8 && !number.testBit 5)

/-- Whether parameters tell what a mouse does, as a number above a base, and where. -/
def tellMouse
    (base : Nat)
    (parameters : Parameters) : Bool :=
  match parameters.number? 256 0 with
  | some number =>
      base ≤ number && isMouseAction (number - base) &&
        (parameters.number? 0x10000 1).isSome && (parameters.number? 0x10000 2).isSome
  | none => false

end Parameters

end Barrage.Terminal
