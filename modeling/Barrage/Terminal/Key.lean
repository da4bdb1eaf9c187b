/-!
# Keys

A key is told by the character that it types or by its name, together with
whether the control key is held down and whether the key is pressed or let
go.  Further modifiers make no difference here and are not kept.

Characters that do not print stand for keys too: most of them for a letter or
digit that is pressed together with the control key.
-/

namespace Barrage.Terminal

/-- Which key it is. -/
inductive KeyCode
  | character (character : Char)
  | escape
  /-- Any other key. -/
  | other
deriving DecidableEq, Repr

/-- A key that is pressed or let go. -/
structure Key where
  code : KeyCode
  /-- Whether the control key is held down. -/
  control : Bool := false
  /-- Whether the key is pressed, and not repeated or let go. -/
  pressed : Bool := true
deriving DecidableEq, Repr

namespace Key

/-- The escape key. -/
def escape : Key where
  code := .escape

/-- A key without a use of its own. -/
def other : Key where
  code := .other

/-- The key that is sent as a single character. -/
def ofCharacter (character : Char) : Key :=
  let code := character.toNat
  if code = 0 then { code := .character ' ', control := true }
  else if character == '\r' || character == '\t' || character == '\x7f' then other
  else if code ≤ 26 then { code := .character (Char.ofNat (code + 96)), control := true }
  else if 28 ≤ code ∧ code ≤ 31 then
    { code := .character (Char.ofNat (code + 24)), control := true }
  else { code := .character character }

end Key

end Barrage.Terminal
