import Barrage.Proofs.Document.Reading
import Barrage.Proofs.Traversal

/-!
# Space between lexemes

The reader keeps offsets for its faults alone and decides nothing by them.  If
they are all forgotten, before a step or after it, the step is the same
(`Reader.step_unplaced`).  So a text without an obstacle is read for what its
lexemes come to by themselves (`readLexemes`), or is refused for the same fault
at some place.
-/

namespace Barrage.Document

/-! ## Forgetting offsets -/

/-- A lexeme by itself, as if it stood at the start of the text. -/
def Lexeme.unplaced (lexeme : Lexeme) : PlacedLexeme :=
  ⟨lexeme, 0⟩

/-- An open list without the place of its parenthesis. -/
def OpenList.unplaced (list : OpenList) : OpenList :=
  { list with offset := 0 }

namespace Reader

/-- The reader without the places that it keeps. -/
def unplaced (reader : Reader) : Reader :=
  { reader with
    openLists := reader.openLists.map OpenList.unplaced
    lastMarker := 0 }

/-- The outcome of reading without the places that are in it. -/
def unplacedOutcome : Except PlacedFault Reader → Except PlacedFault Reader
  | .ok reader => .ok reader.unplaced
  | .error fault => .error ⟨fault.fault, 0⟩

theorem place_unplaced
    (reader : Reader)
    (node : Node) :
    reader.unplaced.place node = (reader.place node).unplaced := by
  obtain ⟨openLists, newestFirst, pending, lastMarker, depth⟩ := reader
  cases openLists <;> rfl

theorem placeLeaf_unplaced
    (reader : Reader)
    (node : Node) :
    reader.unplaced.placeLeaf node = (reader.placeLeaf node).unplaced :=
  place_unplaced { reader with pending := 0, depth := reader.depth - reader.pending } _

/-! ## Reading without offsets -/

/-- A lexeme does the same to the reader wherever it stands. -/
theorem step_unplaced
    (reader : Reader)
    (placed : PlacedLexeme) :
    reader.unplaced.step placed.lexeme.unplaced = unplacedOutcome (reader.step placed) := by
  obtain ⟨lexeme, offset⟩ := placed
  cases lexeme with
  | marker =>
      by_cases full : nestingLimit < reader.depth + 1 <;>
        simp [step, unplaced, unplacedOutcome, Lexeme.unplaced, full]
  | opening =>
      by_cases full : nestingLimit < reader.depth + 1
      · simp [step, unplaced, unplacedOutcome, Lexeme.unplaced, full]
      · simp [step, unplaced, unplacedOutcome, Lexeme.unplaced, OpenList.unplaced, full]
  | closing =>
      by_cases waiting : 0 < reader.pending
      · simp [step, unplaced, unplacedOutcome, Lexeme.unplaced, waiting]
      · cases openLists : reader.openLists with
        | nil => simp [step, unplaced, unplacedOutcome, Lexeme.unplaced, waiting, openLists]
        | cons innermost outer =>
            have closed :=
              place_unplaced
                { reader with
                  openLists := outer
                  depth := reader.depth - (1 + innermost.markers) }
                ((Node.list innermost.newestFirst.reverse).quotedTimes innermost.markers)
            simp only [unplaced] at closed
            simp [step, unplaced, unplacedOutcome, Lexeme.unplaced, OpenList.unplaced, waiting,
              openLists, closed]
  | literal body => exact congrArg Except.ok (placeLeaf_unplaced reader _)
  | atom name => exact congrArg Except.ok (placeLeaf_unplaced reader _)

theorem run_unplaced
    (reader : Reader)
    (placed : List PlacedLexeme) :
    reader.unplaced.run (placed.map (·.lexeme.unplaced)) = unplacedOutcome (reader.run placed) := by
  induction placed generalizing reader with
  | nil => rfl
  | cons first rest ih =>
      rw [List.map_cons, run_cons, run_cons, step_unplaced]
      cases reader.step first with
      | error fault => rfl
      | ok next => exact ih next

/-- Why a text is refused at its end depends on no places. -/
theorem finish_unplaced
    (reader : Reader)
    (placed other : List PlacedLexeme)
    (length otherLength : Nat) :
    (reader.unplaced.finish other otherLength).mapError (·.fault) =
      (reader.finish placed length).mapError (·.fault) := by
  obtain ⟨openLists, newestFirst, pending, lastMarker, depth⟩ := reader
  match openLists, pending, newestFirst with
  | _ :: _, _, _ => rfl
  | [], _ + 1, _ => rfl
  | [], 0, [] => rfl
  | [], 0, [_] => rfl
  | [], 0, _ :: _ :: _ => rfl

end Reader

/-! ## Lexemes by themselves -/

/-- What lexemes come to, wherever they stand. -/
def readLexemes (lexemes : List Lexeme) : Except SyntaxFault Node :=
  ((Reader.run {} (lexemes.map Lexeme.unplaced)).bind fun reader =>
    reader.finish (lexemes.map Lexeme.unplaced) 0).mapError (·.fault)

/-- A text without an obstacle is read for its lexemes alone. -/
theorem readDocument_of_complete
    {text : List Char}
    (complete : (Lexemes.scan text).ending = .complete) :
    (readDocument text).mapError (·.fault) =
      readLexemes ((Lexemes.scan text).found.map (·.lexeme)) := by
  have ran : Reader.run {} (((Lexemes.scan text).found.map (·.lexeme)).map Lexeme.unplaced) =
      Reader.unplacedOutcome (Reader.run {} (Lexemes.scan text).found) := by
    rw [List.map_map]
    exact Reader.run_unplaced {} (Lexemes.scan text).found
  have shown : (readDocument text).mapError (·.fault) = (readPlaced text).mapError (·.fault) :=
    Traversal.mapError_mapError _ _ _
  rw [shown, readPlaced, readLexemes, ran, complete]
  cases Reader.run {} (Lexemes.scan text).found with
  | error fault => rfl
  | ok reader => exact (reader.finish_unplaced _ _ _ _).symm

end Barrage.Document
