import Barrage.Document.Lexeme
import Barrage.Text.Characters
import Barrage.Text.Position

/-!
# What can be wrong with the text of a document

A text that is no document is refused for one cause at one place.  The cause
is data.  `SyntaxFault.reason` puts it into words, and `Malformed.message`
adds the line and the column.
-/

namespace Barrage.Document

open Barrage.Text

/-- Why a text is not a document. -/
inductive SyntaxFault
  /-- A text literal that is not closed, or in which a line end is escaped. -/
  | unterminatedLiteral
  /-- A blank character that may not stand between lexemes. -/
  | strayCharacter (character : Char)
  /-- A list or a quote marker inside too many others. -/
  | nestedTooDeep
  /-- A closing parenthesis outside of every list. -/
  | unexpectedClosing
  /-- A quote marker with no expression after it. -/
  | danglingMarker
  /-- A list that is not closed. -/
  | unclosedList
  /-- No expression at all. -/
  | emptyDocument
  /-- An expression after the end of the document. -/
  | secondExpression
deriving DecidableEq, Repr

/-- The fault that an obstacle to reading lexemes amounts to. -/
def SyntaxFault.ofObstacle : Obstacle → SyntaxFault
  | .unterminatedLiteral => unterminatedLiteral
  | .strayCharacter character => strayCharacter character

/-- The greatest number of lists and quote markers around each other. -/
def nestingLimit : Nat := 256

/-- The words for a fault. -/
def SyntaxFault.reason : SyntaxFault → String
  | unterminatedLiteral => "unterminated string literal"
  | strayCharacter character => "invalid token " ++ Quoted.quote (String.singleton character)
  | nestedTooDeep => s!"nesting too deep (more than {nestingLimit} levels)"
  | unexpectedClosing => "unexpected ')'"
  | danglingMarker => "quote marker is not followed by an expression"
  | unclosedList => "unclosed '('"
  | emptyDocument => "empty document"
  | secondExpression => "unexpected expression after the document"

/-- A fault with the offset at which it was found. -/
structure PlacedFault where
  fault : SyntaxFault
  offset : Nat
deriving DecidableEq, Repr

/-- A fault with the position that is shown for it. -/
structure Malformed where
  fault : SyntaxFault
  position : Position
deriving DecidableEq, Repr

/-- The words for a fault, with its position in front. -/
def Malformed.message (malformed : Malformed) : String :=
  let position := malformed.position
  s!"malformed document at {position.line}:{position.column}: {malformed.fault.reason}"

/-- Show the offset of a fault as a position in the text. -/
def PlacedFault.inText
    (placed : PlacedFault)
    (text : List Char) : Malformed :=
  ⟨placed.fault, Position.ofOffset text placed.offset⟩

end Barrage.Document
