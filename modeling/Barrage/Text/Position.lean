/-!
# Positions in a text

A text is a list of characters and an offset counts the characters before a
place in it.  People find a place by its line and its column, both counted
from one.  `Position.ofOffset` turns an offset into such a pair: only line
feeds end a line, and every character takes one column.
-/

namespace Barrage.Text

/-- A place in a text, by line and column, both counted from one. -/
structure Position where
  /-- One more than the number of line feeds before the place. -/
  line : Nat
  /-- One more than the number of characters between the start of the line and the place. -/
  column : Nat
deriving DecidableEq, Repr

namespace Position

/-- The position that is reached after reading `before` from the start of a text. -/
def after (before : List Char) : Position where
  line := before.count '\n' + 1
  column := (before.reverse.takeWhile (· != '\n')).length + 1

/-- The position of an offset.  An offset past the end stands for the end. -/
def ofOffset
    (text : List Char)
    (offset : Nat) : Position :=
  after (text.take offset)

@[simp]
theorem after_nil : after [] = ⟨1, 1⟩ := rfl

/-- A line feed opens the next line. -/
theorem after_append_lineFeed (before : List Char) :
    after (before ++ ['\n']) = ⟨(after before).line + 1, 1⟩ := by
  simp [after]

/-- Any other character moves one column on. -/
theorem after_append_of_ne
    (before : List Char)
    (character : Char)
    (notLineFeed : character ≠ '\n') :
    after (before ++ [character]) =
      ⟨(after before).line, (after before).column + 1⟩ := by
  simp [after, notLineFeed]

theorem ofOffset_of_length_le
    {text : List Char}
    {offset : Nat}
    (pastEnd : text.length ≤ offset) :
    ofOffset text offset = after text := by
  rw [ofOffset, List.take_of_length_le pastEnd]

/-- The characters behind an offset have no part in its position. -/
theorem ofOffset_append
    {before : List Char}
    {offset : Nat}
    (inside : offset ≤ before.length)
    (after : List Char) :
    ofOffset (before ++ after) offset = ofOffset before offset := by
  rw [ofOffset, List.take_append_of_le_length inside, ofOffset]

end Position

end Barrage.Text
