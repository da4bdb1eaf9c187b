import Barrage.Document.Fault
import Barrage.Document.Node

/-!
# Reading a document

The lexemes of a text are read from left to right into one expression.  The
reader keeps the lists that are open, innermost first.  Quote markers wait
until the expression after them is complete: those in front of a list are
kept with the open list, the others are pending.

Lists and markers may be nested at most `nestingLimit` deep.  The reader
counts the lists and markers that enclose the next lexeme, and refuses a
lexeme that would exceed the limit.

`readDocument` accepts a text that holds exactly one expression.
-/

namespace Barrage.Document

/-! ## The reader between two lexemes -/

/-- A list whose closing parenthesis has not been read. -/
structure OpenList where
  /-- The complete items, newest first. -/
  newestFirst : List Node
  /-- The number of quote markers in front of the list. -/
  markers : Nat
  /-- The offset of the opening parenthesis. -/
  offset : Nat

/-- The reader between two lexemes. -/
structure Reader where
  /-- The open lists, innermost first. -/
  openLists : List OpenList := []
  /-- The complete expressions outside of every list, newest first. -/
  newestFirst : List Node := []
  /-- The number of quote markers that wait for an expression. -/
  pending : Nat := 0
  /-- The offset of the last quote marker read. -/
  lastMarker : Nat := 0
  /-- The number of open lists and of quote markers around them or pending. -/
  depth : Nat := 0

namespace Reader

/-! ## Reading lexemes -/

/-- Put a complete expression into the innermost open list, or outside of all lists. -/
def place
    (reader : Reader)
    (node : Node) : Reader :=
  match reader.openLists with
  | [] => { reader with newestFirst := node :: reader.newestFirst }
  | innermost :: outer =>
      { reader with
        openLists :=
          { innermost with newestFirst := node :: innermost.newestFirst } :: outer }

/-- Place an expression that is a single lexeme, behind the pending markers. -/
def placeLeaf
    (reader : Reader)
    (node : Node) : Reader :=
  { reader with pending := 0, depth := reader.depth - reader.pending }.place
    (node.quotedTimes reader.pending)

/-- Read a lexeme. -/
def step
    (reader : Reader)
    (placed : PlacedLexeme) : Except PlacedFault Reader :=
  match placed.lexeme with
  | .marker =>
      if nestingLimit < reader.depth + 1 then .error ⟨.nestedTooDeep, placed.offset⟩
      else
        .ok
          { reader with
            pending := reader.pending + 1
            lastMarker := placed.offset
            depth := reader.depth + 1 }
  | .opening =>
      if nestingLimit < reader.depth + 1 then .error ⟨.nestedTooDeep, placed.offset⟩
      else
        .ok
          { reader with
            openLists := ⟨[], reader.pending, placed.offset⟩ :: reader.openLists
            pending := 0
            depth := reader.depth + 1 }
  | .closing =>
      if 0 < reader.pending then .error ⟨.danglingMarker, reader.lastMarker⟩
      else
        match reader.openLists with
        | [] => .error ⟨.unexpectedClosing, placed.offset⟩
        | innermost :: outer =>
            .ok
              ({ reader with
                  openLists := outer
                  depth := reader.depth - (1 + innermost.markers) }.place
                ((Node.list innermost.newestFirst.reverse).quotedTimes innermost.markers))
  | .literal body => .ok (reader.placeLeaf (Node.ofLiteral body))
  | .atom name => .ok (reader.placeLeaf (Node.ofAtom name))

/-- Read lexemes one after the other, up to the first fault. -/
def run
    (reader : Reader)
    (lexemes : List PlacedLexeme) : Except PlacedFault Reader :=
  lexemes.foldlM step reader

@[simp]
theorem run_nil (reader : Reader) : reader.run [] = .ok reader := rfl

@[simp]
theorem run_cons
    (reader : Reader)
    (placed : PlacedLexeme)
    (lexemes : List PlacedLexeme) :
    reader.run (placed :: lexemes) =
      (reader.step placed).bind fun next => next.run lexemes := rfl

end Reader

/-! ## Whole documents -/

/--
The offset of the first lexeme after the first complete expression, found by
counting parentheses alone.  `depth` is the number of open lists and
`complete` tells whether an expression has ended.
-/
def secondExpressionFrom
    (depth : Nat)
    (complete : Bool) : List PlacedLexeme → Option Nat
  | [] => none
  | placed :: rest =>
      if complete && depth == 0 then some placed.offset
      else
        match placed.lexeme with
        | .opening => secondExpressionFrom (depth + 1) complete rest
        | .closing => secondExpressionFrom (depth - 1) (complete || depth - 1 == 0) rest
        | .marker => secondExpressionFrom depth complete rest
        | .literal _ | .atom _ => secondExpressionFrom depth (complete || depth == 0) rest

/-- The offset at which a second expression starts. -/
def secondExpression? (lexemes : List PlacedLexeme) : Option Nat :=
  secondExpressionFrom 0 false lexemes

/-- The expression that has been read when the text of this length ends here. -/
def Reader.finish
    (reader : Reader)
    (lexemes : List PlacedLexeme)
    (length : Nat) : Except PlacedFault Node :=
  match reader.openLists with
  | innermost :: _ => .error ⟨.unclosedList, innermost.offset⟩
  | [] =>
      if 0 < reader.pending then .error ⟨.danglingMarker, reader.lastMarker⟩
      else
        match reader.newestFirst with
        | [] => .error ⟨.emptyDocument, length⟩
        | [node] => .ok node
        | _ => .error ⟨.secondExpression, (secondExpression? lexemes).getD length⟩

/-- Read a text that holds exactly one expression, with offsets for its faults. -/
def readPlaced (text : List Char) : Except PlacedFault Node := do
  let lexemes := Lexemes.scan text
  let reader ← Reader.run {} lexemes.found
  match lexemes.ending with
  | .stopped offset obstacle => .error ⟨.ofObstacle obstacle, offset⟩
  | .complete => reader.finish lexemes.found text.length

/-- Read a text that holds exactly one expression. -/
def readDocument (text : List Char) : Except Malformed Node :=
  (readPlaced text).mapError (·.inText text)

end Barrage.Document
