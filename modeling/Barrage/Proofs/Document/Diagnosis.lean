import Barrage.Proofs.Document.Enclosing
import Barrage.Proofs.Document.Rejection

/-!
# Which fault is reported

A text may be wrong in several ways at once, and one of them is reported.  Which
it is can be told from the lexemes, without reading them: `Diagnosed` says so.
It is the first lexeme that may not follow those before it, or else the place
where no lexeme can be read, or else what is missing at the end.

The reader keeps the open lists, counts the pending markers and the depth, and
remembers the last marker.  All of this is what encloses the next lexeme
(`Reader.Tracks`, kept by every step), so it refuses exactly the lexemes that
may not follow (`Reader.Tracks.step_eq_error_iff`).
-/

namespace Barrage.Document

/-! ## Lexemes that may not follow others -/

/-- A lexeme that may not follow these, and the fault that is reported for it. -/
inductive Offends (before : List PlacedLexeme) : PlacedLexeme → PlacedFault → Prop
  | deepOpening
      (offset : Nat)
      (full : 256 ≤ (enclosing before).length) :
      Offends before ⟨.opening, offset⟩ ⟨.nestedTooDeep, offset⟩
  | deepMarker
      (offset : Nat)
      (full : 256 ≤ (enclosing before).length) :
      Offends before ⟨.marker, offset⟩ ⟨.nestedTooDeep, offset⟩
  /-- The fault is that of the marker in front of the parenthesis. -/
  | closedMarker
      {marker : Nat}
      (follows : before.getLast? = some ⟨.marker, marker⟩)
      (closing : Nat) :
      Offends before ⟨.closing, closing⟩ ⟨.danglingMarker, marker⟩
  | unexpectedClosing
      (noMarker : ∀ marker, before.getLast? ≠ some ⟨.marker, marker⟩)
      (outside : lastUnmatched? before = none)
      (offset : Nat) :
      Offends before ⟨.closing, offset⟩ ⟨.unexpectedClosing, offset⟩

/-- Each of these lexemes may follow those before it. -/
def Inoffensive (lexemes : List PlacedLexeme) : Prop :=
  ∀ before placed after fault,
    lexemes = before ++ placed :: after → ¬ Offends before placed fault

/-- The fault that is reported for a text, unless it is a second expression. -/
inductive Diagnosed (text : List Char) : PlacedFault → Prop
  /-- A lexeme is the first that may not follow those before it. -/
  | offence
      {before after : List PlacedLexeme}
      {placed : PlacedLexeme}
      {fault : PlacedFault}
      (found : (Lexemes.scan text).found = before ++ placed :: after)
      (inoffensive : Inoffensive before)
      (offends : Offends before placed fault) :
      Diagnosed text fault
  /-- After that no lexeme can be read. -/
  | unreadable
      (inoffensive : Inoffensive (Lexemes.scan text).found)
      {offset : Nat}
      {obstacle : Obstacle}
      (stopped : (Lexemes.scan text).ending = .stopped offset obstacle) :
      Diagnosed text ⟨.ofObstacle obstacle, offset⟩
  /-- A list is open at the end, be there a marker after it or not. -/
  | unclosed
      (inoffensive : Inoffensive (Lexemes.scan text).found)
      (complete : (Lexemes.scan text).ending = .complete)
      {offset : Nat}
      (unmatched : lastUnmatched? (Lexemes.scan text).found = some offset) :
      Diagnosed text ⟨.unclosedList, offset⟩
  /-- A marker is the last lexeme, and no list is open. -/
  | dangling
      (inoffensive : Inoffensive (Lexemes.scan text).found)
      (complete : (Lexemes.scan text).ending = .complete)
      (matched : lastUnmatched? (Lexemes.scan text).found = none)
      {marker : Nat}
      (last : (Lexemes.scan text).found.getLast? = some ⟨.marker, marker⟩) :
      Diagnosed text ⟨.danglingMarker, marker⟩
  /-- There are no lexemes. -/
  | empty
      (complete : (Lexemes.scan text).ending = .complete)
      (nothing : (Lexemes.scan text).found = []) :
      Diagnosed text ⟨.emptyDocument, text.length⟩

namespace Reader

/-! ## The reader keeps what encloses the next lexeme -/

/-- The places of open lists, with their markers behind them, innermost first. -/
def outlineOf : List OpenList → List (Option Nat)
  | [] => []
  | list :: outer => some list.offset :: (List.replicate list.markers none ++ outlineOf outer)

/-- The places of open lists, with a gap for each marker. -/
def outline (reader : Reader) : List (Option Nat) :=
  List.replicate reader.pending none ++ outlineOf reader.openLists

/-- What the reader keeps is what encloses the lexeme after those read: an invariant of reading. -/
structure Tracks
    (reader : Reader)
    (read : List PlacedLexeme) : Prop where
  outline_eq : (enclosing read).map (·.opening?) = reader.outline
  depth_eq : reader.depth = reader.outline.length
  marker_iff :
    ∀ marker,
      read.getLast? = some ⟨.marker, marker⟩ ↔ 0 < reader.pending ∧ reader.lastMarker = marker

theorem dropWhile_outlineOf
    (markers : Nat)
    (lists : List OpenList) :
    (List.replicate markers none ++ outlineOf lists).dropWhile Option.isNone = outlineOf lists := by
  induction markers with
  | zero => cases lists <;> rfl
  | succ markers ih => exact ih

theorem findSome?_outlineOf
    (markers : Nat)
    (lists : List OpenList) :
    (List.replicate markers none ++ outlineOf lists).findSome? id =
      lists.head?.map (·.offset) := by
  induction markers with
  | zero => cases lists <;> rfl
  | succ markers ih => exact ih

theorem map_withoutMarkers
    (stack : List PlacedLexeme) :
    (withoutMarkers stack).map (·.opening?) = (stack.map (·.opening?)).dropWhile Option.isNone := by
  rw [withoutMarkers, List.dropWhile_map]
  rfl

theorem outlineOf_openLists_place
    (reader : Reader)
    (node : Node) :
    outlineOf (reader.place node).openLists = outlineOf reader.openLists := by
  obtain ⟨openLists, newestFirst, pending, lastMarker, depth⟩ := reader
  cases openLists <;> rfl

namespace Tracks

variable
    {reader next : Reader}
    {read : List PlacedLexeme}
    {placed : PlacedLexeme}
    {fault : PlacedFault}

theorem start : Tracks {} [] where
  outline_eq := rfl
  depth_eq := rfl
  marker_iff := by simp

theorem depth_eq_length
    (tracks : reader.Tracks read) :
    reader.depth = (enclosing read).length := by
  rw [tracks.depth_eq, ← tracks.outline_eq, List.length_map]

/-- The innermost open list is the last one without a match. -/
theorem lastUnmatched?_eq
    (tracks : reader.Tracks read) :
    lastUnmatched? read = reader.openLists.head?.map (·.offset) := by
  rw [← findSome?_outlineOf reader.pending, ← outline, ← tracks.outline_eq, List.findSome?_map]
  rfl

theorem openLists_eq_nil
    (tracks : reader.Tracks read)
    (matched : lastUnmatched? read = none) :
    reader.openLists = [] := by
  rw [tracks.lastUnmatched?_eq, Option.map_eq_none_iff, List.head?_eq_none_iff] at matched
  exact matched

theorem pending_eq_zero
    (tracks : reader.Tracks read)
    (noMarker : ∀ marker, read.getLast? ≠ some ⟨.marker, marker⟩) :
    reader.pending = 0 := by
  refine Nat.eq_zero_of_not_pos fun waiting => ?_
  exact noMarker _ ((tracks.marker_iff _).mpr ⟨waiting, rfl⟩)

/-- The reader after a lexeme that begins a list or a quoted expression. -/
theorem of_begin
    (tracks : reader.Tracks read)
    {last : PlacedLexeme}
    (begins : last.lexeme = .opening ∨ last.lexeme = .marker)
    {state : Reader}
    (outline_eq : state.outline = last.opening? :: reader.outline)
    (depth_eq : state.depth = reader.depth + 1)
    (marker_iff :
      ∀ marker, last = ⟨.marker, marker⟩ ↔ 0 < state.pending ∧ state.lastMarker = marker) :
    state.Tracks (read ++ [last]) := by
  constructor
  case outline_eq =>
    rw [enclosing_begin read begins, List.map_cons, tracks.outline_eq, outline_eq]
  case depth_eq => rw [depth_eq, outline_eq, List.length_cons, tracks.depth_eq]
  case marker_iff =>
    intro marker
    rw [List.getLast?_concat, Option.some_inj]
    exact marker_iff marker

/-- The reader after an expression that completes all but what these lists stand for. -/
theorem of_place
    {last : PlacedLexeme}
    (notMarker : last.lexeme ≠ .marker)
    {state : Reader}
    (noMarker : state.pending = 0)
    (outline_eq : (enclosing (read ++ [last])).map (·.opening?) = outlineOf state.openLists)
    (depth_eq : state.depth = (outlineOf state.openLists).length)
    (node : Node) :
    (state.place node).Tracks (read ++ [last]) := by
  have outline : (state.place node).outline = outlineOf state.openLists := by
    rw [Reader.outline, pending_place, noMarker, outlineOf_openLists_place]
    rfl
  constructor
  case outline_eq => rw [outline_eq, outline]
  case depth_eq => rw [outline, depth_place, depth_eq]
  case marker_iff =>
    intro marker
    rw [List.getLast?_concat, pending_place, noMarker]
    refine iff_of_false ?_ fun waiting => Nat.lt_irrefl 0 waiting.1
    intro isMarker
    cases isMarker
    exact notMarker rfl

theorem placeLeaf
    (tracks : reader.Tracks read)
    {last : PlacedLexeme}
    (isLeaf : last.lexeme ≠ .opening ∧ last.lexeme ≠ .closing ∧ last.lexeme ≠ .marker)
    (node : Node) :
    (reader.placeLeaf node).Tracks (read ++ [last]) := by
  have depth := tracks.depth_eq
  rw [outline, List.length_append, List.length_replicate] at depth
  refine of_place isLeaf.2.2 rfl ?_ ?_ _
  · rw [enclosing_leaf read isLeaf, map_withoutMarkers, tracks.outline_eq, outline,
      dropWhile_outlineOf]
  · dsimp only
    omega

theorem step
    (tracks : reader.Tracks read)
    (accepted : reader.step placed = .ok next) :
    next.Tracks (read ++ [placed]) := by
  cases moves_of_step accepted with
  | marker offset room => exact tracks.of_begin (.inr rfl) rfl rfl (by simp)
  | opening offset room => exact tracks.of_begin (.inl rfl) rfl rfl (by simp)
  | @closing offset noMarker innermost outer openLists =>
      have outline : reader.outline =
          some innermost.offset :: (List.replicate innermost.markers none ++ outlineOf outer) := by
        rw [Reader.outline, noMarker, openLists]
        rfl
      have depth := tracks.depth_eq
      rw [outline, List.length_cons, List.length_append, List.length_replicate] at depth
      have notMarker : (PlacedLexeme.mk .closing offset).lexeme ≠ .marker := Lexeme.noConfusion
      refine of_place notMarker ?noMarker ?enclosed ?depth _
      case noMarker => exact noMarker
      case enclosed =>
        rw [enclosing_closing read rfl, withoutList, map_withoutMarkers, List.map_tail,
          map_withoutMarkers, tracks.outline_eq, outline]
        exact dropWhile_outlineOf innermost.markers outer
      case depth =>
        dsimp only
        omega
  | literal offset body =>
      exact tracks.placeLeaf ⟨Lexeme.noConfusion, Lexeme.noConfusion, Lexeme.noConfusion⟩ _
  | atom offset name =>
      exact tracks.placeLeaf ⟨Lexeme.noConfusion, Lexeme.noConfusion, Lexeme.noConfusion⟩ _

/-! ## The reader refuses what may not follow -/

theorem offends_of_step
    (tracks : reader.Tracks read)
    (refused : reader.step placed = .error fault) :
    Offends read placed fault := by
  have depth := tracks.depth_eq_length
  cases refuses_of_step refused with
  | marker offset full =>
      have deep : nestingLimit ≤ (enclosing read).length := by omega
      exact .deepMarker offset deep
  | opening offset full =>
      have deep : nestingLimit ≤ (enclosing read).length := by omega
      exact .deepOpening offset deep
  | waiting offset waiting =>
      exact .closedMarker ((tracks.marker_iff _).mpr ⟨waiting, rfl⟩) offset
  | outside offset outside =>
      refine .unexpectedClosing ?_ ?_ offset
      · intro marker follows
        have waiting := ((tracks.marker_iff marker).mp follows).1
        rw [step_closing_of_waiting reader offset waiting] at refused
        cases refused
      · rw [tracks.lastUnmatched?_eq, outside]
        rfl

theorem step_of_offends
    (tracks : reader.Tracks read)
    (offends : Offends read placed fault) :
    reader.step placed = .error fault := by
  have depth := tracks.depth_eq_length
  cases offends with
  | deepOpening offset full =>
      exact step_opening_of_full reader offset (by change 256 < _; omega)
  | deepMarker offset full =>
      exact step_marker_of_full reader offset (by change 256 < _; omega)
  | @closedMarker marker follows closing =>
      obtain ⟨waiting, same⟩ := (tracks.marker_iff marker).mp follows
      rw [step_closing_of_waiting reader closing waiting, same]
  | unexpectedClosing noMarker outside offset =>
      exact
        step_closing_of_outside (tracks.openLists_eq_nil outside) (tracks.pending_eq_zero noMarker)
          offset

theorem step_eq_error_iff
    (tracks : reader.Tracks read) :
    reader.step placed = .error fault ↔ Offends read placed fault :=
  ⟨tracks.offends_of_step, tracks.step_of_offends⟩

theorem run
    (tracks : reader.Tracks read)
    {lexemes : List PlacedLexeme}
    (accepted : reader.run lexemes = .ok next) :
    next.Tracks (read ++ lexemes) :=
  Traversal.foldlM_preserves (fun _ _ _ _ tracks stepped => tracks.step stepped) read tracks
    accepted

end Tracks

/-! ## Whole runs -/

section Run

variable
    {lexemes : List PlacedLexeme}
    {fault : PlacedFault}

theorem inoffensive_of_run
    {reader : Reader}
    (accepted : Reader.run {} lexemes = .ok reader) :
    Inoffensive lexemes := by
  rintro before placed after fault rfl offends
  rw [run_append] at accepted
  obtain ⟨next, ran, accepted⟩ := Traversal.bind_eq_ok_iff.mp accepted
  obtain ⟨later, stepped, -⟩ := Traversal.bind_eq_ok_iff.mp accepted
  have tracks : next.Tracks before := Tracks.start.run ran
  rw [tracks.step_eq_error_iff.mpr offends] at stepped
  cases stepped

theorem run_eq_error_iff :
    Reader.run {} lexemes = .error fault ↔
      ∃ before placed after,
        lexemes = before ++ placed :: after ∧ Inoffensive before ∧ Offends before placed fault := by
  constructor
  · intro refused
    obtain ⟨before, placed, after, next, split, ran, refused⟩ := exists_step_error_of_run refused
    have tracks : next.Tracks before := Tracks.start.run ran
    exact
      ⟨before, placed, after, split, inoffensive_of_run ran, tracks.step_eq_error_iff.mp refused⟩
  · rintro ⟨before, placed, after, rfl, inoffensive, offends⟩
    rw [run_append]
    cases ran : Reader.run {} before with
    | error cause =>
        obtain ⟨earlier, other, later, next, split, accepted, refused⟩ :=
          exists_step_error_of_run ran
        have tracks : next.Tracks earlier := Tracks.start.run accepted
        exact absurd (tracks.step_eq_error_iff.mp refused) (inoffensive _ _ _ _ split)
    | ok next =>
        have tracks : next.Tracks before := Tracks.start.run ran
        change next.run (placed :: after) = _
        rw [run_cons, tracks.step_eq_error_iff.mpr offends]
        rfl

end Run

/-! ## The end of a text -/

namespace Tracks

variable
    {reader : Reader}
    {read : List PlacedLexeme}
    (tracks : reader.Tracks read)
    (lexemes : List PlacedLexeme)
    (length : Nat)

include tracks

end Tracks

end Reader

/-! ## The fault of a text -/

section Text

variable
    {text : List Char}
    {fault : PlacedFault}

theorem readPlaced_of_complete
    {reader : Reader}
    (accepted : Reader.run {} (Lexemes.scan text).found = .ok reader)
    (complete : (Lexemes.scan text).ending = .complete) :
    readPlaced text = reader.finish (Lexemes.scan text).found text.length := by
  simp only [readPlaced, accepted, complete, bind, Except.bind]

theorem readPlaced_of_stopped
    {reader : Reader}
    (accepted : Reader.run {} (Lexemes.scan text).found = .ok reader)
    {offset : Nat}
    {obstacle : Obstacle}
    (stopped : (Lexemes.scan text).ending = .stopped offset obstacle) :
    readPlaced text = .error ⟨.ofObstacle obstacle, offset⟩ := by
  simp only [readPlaced, accepted, stopped, bind, Except.bind]

theorem Diagnosed.fault_ne_secondExpression
    (diagnosed : Diagnosed text fault) :
    fault.fault ≠ .secondExpression := by
  cases diagnosed with
  | offence _ _ offends => cases offends <;> exact SyntaxFault.noConfusion
  | @unreadable _ offset obstacle _ => cases obstacle <;> exact SyntaxFault.noConfusion
  | unclosed _ _ _ | dangling _ _ _ _ | empty _ _ => exact SyntaxFault.noConfusion

end Text

end Barrage.Document
