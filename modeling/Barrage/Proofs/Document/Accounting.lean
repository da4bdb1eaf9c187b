import Mathlib.Algebra.BigOperators.Group.List.Basic
import Mathlib.Algebra.Ring.Nat
import Barrage.Proofs.Checked
import Barrage.Proofs.Document.Rejection
import Barrage.Proofs.Text.Slicing

/-!
# The account of the reader

The reader counts the lists and markers that enclose the next lexeme.  Its depth
is the sum of the pending markers and, for each open list, of the list and the
markers around it (`Reader.Accounted`, kept by every step).  So no more is ever
taken off the depth than there is, and the lists that are open are no more than
the limit of nesting.

The checked reader asks for this at each difference.  It also cuts the quotes off
a literal, and it cuts the text where a fault is placed.  It does not break off
(`readDocumentChecked_eq`): lexemes are found where they are spelled, and there
all that is cut stands between two characters.
-/

namespace Barrage.Document

open Barrage.Text

/-! ## The depth is the sum of what encloses -/

/-- The levels of nesting that open lists take, each with the markers around it. -/
def levels (lists : List OpenList) : Nat :=
  (lists.map fun list => 1 + list.markers).sum

theorem levels_cons
    (innermost : OpenList)
    (outer : List OpenList) :
    levels (innermost :: outer) = 1 + innermost.markers + levels outer :=
  List.sum_cons

theorem length_le_levels (lists : List OpenList) : lists.length ≤ levels lists := by
  have positive : ∀ level ∈ lists.map fun list => 1 + list.markers, 1 ≤ level := by
    intro level member
    obtain ⟨list, -, rfl⟩ := List.mem_map.mp member
    exact Nat.le_add_right 1 _
  have counted := List.length_le_sum_of_one_le _ positive
  rwa [List.length_map] at counted

namespace Reader

theorem levels_place
    (reader : Reader)
    (node : Node) :
    levels (reader.place node).openLists = levels reader.openLists := by
  obtain ⟨openLists, newestFirst, pending, lastMarker, depth⟩ := reader
  cases openLists <;> rfl

/-- The depth is what it stands for, and it is within the limit: an invariant of reading. -/
structure Accounted (reader : Reader) : Prop where
  depth_eq : reader.depth = reader.pending + levels reader.openLists
  depth_le : reader.depth ≤ nestingLimit

namespace Accounted

variable {reader next : Reader}

theorem start : Accounted {} where
  depth_eq := rfl
  depth_le := Nat.zero_le _

theorem pending_le (accounted : reader.Accounted) : reader.pending ≤ reader.depth := by
  rw [accounted.depth_eq]
  exact Nat.le_add_right _ _

/-- What the innermost list takes off when it is closed. -/
theorem innermost_le
    (accounted : reader.Accounted)
    {innermost : OpenList}
    {outer : List OpenList}
    (openLists : reader.openLists = innermost :: outer) :
    1 + innermost.markers ≤ reader.depth := by
  have depth := accounted.depth_eq
  rw [openLists, levels_cons] at depth
  omega

theorem length_openLists_le (accounted : reader.Accounted) :
    reader.openLists.length ≤ nestingLimit := by
  have counted := length_le_levels reader.openLists
  have depth := accounted.depth_eq
  have limited := accounted.depth_le
  omega

theorem depth_eq_zero
    (accounted : reader.Accounted)
    (outside : reader.openLists = [])
    (noMarker : reader.pending = 0) :
    reader.depth = 0 := by
  rw [accounted.depth_eq, outside, noMarker]
  rfl

theorem place
    (accounted : reader.Accounted)
    (node : Node) :
    (reader.place node).Accounted where
  depth_eq := by rw [depth_place, pending_place, levels_place, accounted.depth_eq]
  depth_le := by
    rw [depth_place]
    exact accounted.depth_le

theorem placeLeaf
    (accounted : reader.Accounted)
    (node : Node) :
    (reader.placeLeaf node).Accounted := by
  have depth := accounted.depth_eq
  have limited := accounted.depth_le
  refine place ⟨?_, ?_⟩ _
  · dsimp only
    omega
  · exact Nat.le_trans (Nat.sub_le _ _) limited

theorem step
    (accounted : reader.Accounted)
    {placed : PlacedLexeme}
    (accepted : reader.step placed = .ok next) :
    next.Accounted := by
  have depth := accounted.depth_eq
  have limited := accounted.depth_le
  cases moves_of_step accepted with
  | marker offset room =>
      refine ⟨?_, room⟩
      dsimp only
      omega
  | opening offset room =>
      refine ⟨?_, room⟩
      rw [levels_cons]
      dsimp only
      omega
  | closing offset noMarker openLists =>
      rw [openLists, levels_cons] at depth
      refine place ⟨?_, ?_⟩ _
      · dsimp only
        omega
      · exact Nat.le_trans (Nat.sub_le _ _) limited
  | literal offset body => exact accounted.placeLeaf _
  | atom offset name => exact accounted.placeLeaf _

theorem run
    (accounted : reader.Accounted)
    {lexemes : List PlacedLexeme}
    (accepted : reader.run lexemes = .ok next) :
    next.Accounted := by
  have kept :
      ∀ (reader next : Reader) (_ : List PlacedLexeme) (placed : PlacedLexeme),
        reader.Accounted → reader.step placed = .ok next → next.Accounted :=
    fun _ _ _ _ accounted stepped => accounted.step stepped
  exact Traversal.foldlM_preserves kept [] accounted accepted

end Accounted

end Reader

/-! ## Literals without their quotes -/

/-- The characters that stand where a lexeme was found, as many as it has. -/
def PlacedLexeme.written
    (placed : PlacedLexeme)
    (text : List Char) : List Char :=
  (text.drop placed.offset).take placed.lexeme.characters.length

theorem written_of_mem_scan
    {text : List Char}
    {placed : PlacedLexeme}
    (found : placed ∈ (Lexemes.scan text).found) :
    placed.written text = placed.lexeme.characters :=
  (List.prefix_iff_eq_take.mp ((Lexemes.startsIn_scan text).found placed found)).symm

/-- The text that a written literal denotes.  Its first and its last byte are cut off. -/
def Node.ofLiteral? (written : List Char) : Option Node := do
  let last ← (String.ofList written).utf8ByteSize.psub 1
  let body ← slice? (String.ofList written) ⟨1⟩ ⟨last⟩
  some (ofLiteral body.toList)

theorem Node.ofLiteral?_characters (body : List Char) :
    ofLiteral? (Lexeme.literal body).characters = some (ofLiteral body) := by
  have bytes :
      (String.ofList (Lexeme.literal body).characters).utf8ByteSize =
        1 + String.utf8Len body + 1 := by
    rw [String.utf8ByteSize_ofList, Lexeme.characters, String.utf8Len_cons, String.utf8Len_append,
      Nat.add_comm _ (Char.utf8Size _), ← Nat.add_assoc]
    rfl
  have cut : slice? (String.ofList (Lexeme.literal body).characters) ⟨1⟩
      ⟨1 + String.utf8Len body⟩ = some (String.ofList body) :=
    slice?_append ['"'] body ['"']
  rw [ofLiteral?, bytes, Nat.psub_eq_sub (Nat.le_add_left 1 _), Nat.add_sub_cancel]
  simp only [Option.bind_eq_bind, Option.bind_some, cut, String.toList_ofList]

namespace Reader

/-! ## The checked reader -/

/-- Place an expression that is a single lexeme, with the difference checked. -/
def placeLeafChecked
    (reader : Reader)
    (node : Node) : Checked PlacedFault Reader := do
  let depth ← Checked.get (reader.depth.psub reader.pending)
  return { reader with pending := 0, depth := depth }.place (node.quotedTimes reader.pending)

/-- Read a lexeme, with the differences and the slice of a literal checked. -/
def stepChecked
    (text : List Char)
    (reader : Reader)
    (placed : PlacedLexeme) : Checked PlacedFault Reader :=
  match placed.lexeme with
  | .marker | .opening => Checked.sound (reader.step placed)
  | .closing =>
      if 0 < reader.pending then throw ⟨.danglingMarker, reader.lastMarker⟩
      else
        match reader.openLists with
        | [] => throw ⟨.unexpectedClosing, placed.offset⟩
        | innermost :: outer => do
            let depth ← Checked.get (reader.depth.psub (1 + innermost.markers))
            return { reader with openLists := outer, depth := depth }.place
              ((Node.list innermost.newestFirst.reverse).quotedTimes innermost.markers)
  | .literal _ => do
      let node ← Checked.get (Node.ofLiteral? (placed.written text))
      reader.placeLeafChecked node
  | .atom name => reader.placeLeafChecked (Node.ofAtom name)

theorem Accounted.placeLeafChecked_eq
    {reader : Reader}
    (accounted : reader.Accounted)
    (node : Node) :
    reader.placeLeafChecked node = Checked.sound (.ok (reader.placeLeaf node)) := by
  rw [placeLeafChecked, Nat.psub_eq_sub accounted.pending_le]
  rfl

theorem Accounted.stepChecked_eq
    {reader : Reader}
    (accounted : reader.Accounted)
    {text : List Char}
    {placed : PlacedLexeme}
    (written : placed.written text = placed.lexeme.characters) :
    reader.stepChecked text placed = Checked.sound (reader.step placed) := by
  obtain ⟨lexeme, offset⟩ := placed
  cases lexeme with
  | marker | opening => rfl
  | closing =>
      cases openLists : reader.openLists with
      | nil =>
          simp only [stepChecked, Reader.step, openLists]
          split <;> rfl
      | cons innermost outer =>
          have difference := Nat.psub_eq_sub (accounted.innermost_le openLists)
          simp only [stepChecked, Reader.step, openLists, difference]
          split <;> rfl
  | literal body =>
      rw [stepChecked]
      dsimp only at written ⊢
      rw [written, Node.ofLiteral?_characters, Checked.get_some_bind,
        accounted.placeLeafChecked_eq]
      rfl
  | atom name => exact accounted.placeLeafChecked_eq _

/-- A marker that is pending but not in the depth cannot be taken off it. -/
example : (stepChecked ['x'] { pending := 1 } ⟨.atom ['x'], 0⟩).run = none := rfl

end Reader

/-- Read a text that holds exactly one expression, with offsets for its faults. -/
def readPlacedChecked (text : List Char) : Checked PlacedFault Node := do
  let lexemes := Lexemes.scan text
  let reader ← lexemes.found.foldlM (Reader.stepChecked text) {}
  match lexemes.ending with
  | .stopped offset obstacle => throw ⟨.ofObstacle obstacle, offset⟩
  | .complete => Checked.sound (reader.finish lexemes.found text.length)

/-- Show the offset of a fault as a position in the text, which is cut there. -/
def PlacedFault.inText?
    (placed : PlacedFault)
    (text : List Char) : Option Malformed :=
  (position? (String.ofList text) (placeAt text placed.offset)).map (⟨placed.fault, ·⟩)

/-- Read a text that holds exactly one expression. -/
def readDocumentChecked (text : List Char) : Checked Malformed Node :=
  (readPlacedChecked text).restate (·.inText? text)

theorem readPlacedChecked_eq (text : List Char) :
    readPlacedChecked text = Checked.sound (readPlaced text) := by
  have runs :
      (Lexemes.scan text).found.foldlM (Reader.stepChecked text) {} =
        Checked.sound (Reader.run {} (Lexemes.scan text).found) :=
    Checked.foldlM_eq_sound Reader.Accounted
      (fun _ _ _ accounted accepted => accounted.step accepted)
      (fun _ accounted _ found => accounted.stepChecked_eq (written_of_mem_scan found))
      Reader.Accounted.start
  refine Checked.bind_eq_sound runs fun reader => ?_
  cases (Lexemes.scan text).ending <;> rfl

theorem readDocumentChecked_eq (text : List Char) :
    readDocumentChecked text = Checked.sound (readDocument text) := by
  rw [readDocumentChecked, readPlacedChecked_eq]
  refine Checked.restate_sound _ fun fault => ?_
  rw [PlacedFault.inText?, position?_placeAt]
  rfl

end Barrage.Document
