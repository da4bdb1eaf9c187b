import Barrage.Proofs.Document.Reading
import Barrage.Proofs.Document.Scanning

/-!
# Rejections that are final

A text is rejected for a lexeme that the reader refuses, for a place where no
lexeme can be read, or for what is missing or left over at its end
(`Rejected`).  Every fault is placed inside the text.

More text behind it changes at most the last lexeme, and only if that is an
atom, which the reader never refuses.  A blank character that may not stand in
a gap stops the scanner for good.  So a rejection for one of these is final:
the longer text is rejected for the same fault at the same position.
-/

namespace Barrage.Document

open Barrage.Text

namespace Reader

/-! ## What the reader refuses -/

theorem step_marker_of_full
    (reader : Reader)
    (offset : Nat)
    (full : nestingLimit < reader.depth + 1) :
    reader.step ⟨.marker, offset⟩ = .error ⟨.nestedTooDeep, offset⟩ :=
  if_pos full

theorem step_opening_of_full
    (reader : Reader)
    (offset : Nat)
    (full : nestingLimit < reader.depth + 1) :
    reader.step ⟨.opening, offset⟩ = .error ⟨.nestedTooDeep, offset⟩ :=
  if_pos full

theorem step_closing_of_waiting
    (reader : Reader)
    (offset : Nat)
    (waiting : 0 < reader.pending) :
    reader.step ⟨.closing, offset⟩ = .error ⟨.danglingMarker, reader.lastMarker⟩ :=
  if_pos waiting

theorem step_closing_of_outside
    {reader : Reader}
    (outside : reader.openLists = [])
    (noMarker : reader.pending = 0)
    (offset : Nat) :
    reader.step ⟨.closing, offset⟩ = .error ⟨.unexpectedClosing, offset⟩ := by
  simp [step, outside, noMarker]

/-- Everything that a lexeme is refused for. -/
inductive Refuses (reader : Reader) : PlacedLexeme → PlacedFault → Prop
  | marker
      (offset : Nat)
      (full : nestingLimit < reader.depth + 1) :
      Refuses reader ⟨.marker, offset⟩ ⟨.nestedTooDeep, offset⟩
  | opening
      (offset : Nat)
      (full : nestingLimit < reader.depth + 1) :
      Refuses reader ⟨.opening, offset⟩ ⟨.nestedTooDeep, offset⟩
  | waiting
      (offset : Nat)
      (waiting : 0 < reader.pending) :
      Refuses reader ⟨.closing, offset⟩ ⟨.danglingMarker, reader.lastMarker⟩
  | outside
      (offset : Nat)
      (outside : reader.openLists = []) :
      Refuses reader ⟨.closing, offset⟩ ⟨.unexpectedClosing, offset⟩

theorem refuses_of_step
    {reader : Reader}
    {placed : PlacedLexeme}
    {fault : PlacedFault}
    (refused : reader.step placed = .error fault) :
    reader.Refuses placed fault := by
  obtain ⟨lexeme, offset⟩ := placed
  cases lexeme with
  | marker =>
      by_cases room : reader.depth + 1 ≤ nestingLimit
      · rw [step_marker reader offset room] at refused
        cases refused
      · rw [step_marker_of_full reader offset (Nat.not_le.mp room)] at refused
        cases refused
        exact .marker offset (Nat.not_le.mp room)
  | opening =>
      by_cases room : reader.depth + 1 ≤ nestingLimit
      · rw [step_opening reader offset room] at refused
        cases refused
      · rw [step_opening_of_full reader offset (Nat.not_le.mp room)] at refused
        cases refused
        exact .opening offset (Nat.not_le.mp room)
  | closing =>
      by_cases waiting : 0 < reader.pending
      · rw [step_closing_of_waiting reader offset waiting] at refused
        cases refused
        exact .waiting offset waiting
      · have noMarker := Nat.eq_zero_of_not_pos waiting
        cases openLists : reader.openLists with
        | nil =>
            rw [step_closing_of_outside openLists noMarker] at refused
            cases refused
            exact .outside offset openLists
        | cons innermost outer =>
            rw [step_closing openLists noMarker] at refused
            cases refused
  | literal body => cases refused
  | atom name => cases refused

/-- The first lexeme that is refused. -/
theorem exists_step_error_of_run
    {reader : Reader}
    {lexemes : List PlacedLexeme}
    {fault : PlacedFault}
    (refused : reader.run lexemes = .error fault) :
    ∃ before placed after next,
      lexemes = before ++ placed :: after ∧
        reader.run before = .ok next ∧
        next.step placed = .error fault :=
  Traversal.foldlM_eq_error_iff.mp refused

theorem exists_refuses_of_run
    {reader : Reader}
    {lexemes : List PlacedLexeme}
    {fault : PlacedFault}
    (refused : reader.run lexemes = .error fault) :
    ∃ before placed after next,
      lexemes = before ++ placed :: after ∧
        reader.run before = .ok next ∧
        next.Refuses placed fault := by
  obtain ⟨before, placed, after, next, split, accepted, refused⟩ :=
    exists_step_error_of_run refused
  exact ⟨before, placed, after, next, split, accepted, refuses_of_step refused⟩

/-! ## Faults lie inside the text -/

/-- The places that the reader keeps lie inside a text of some length. -/
structure Within
    (reader : Reader)
    (length : Nat) : Prop where
  lastMarker_le : reader.lastMarker ≤ length
  offset_le : ∀ list ∈ reader.openLists, list.offset ≤ length

namespace Within

variable {reader next : Reader} {length : Nat}

theorem start (length : Nat) : Within {} length where
  lastMarker_le := Nat.zero_le length
  offset_le := by
    intro list member
    cases member

theorem place
    (within : reader.Within length)
    (node : Node) :
    (reader.place node).Within length := by
  obtain ⟨openLists, newestFirst, pending, lastMarker, depth⟩ := reader
  cases openLists with
  | nil => exact ⟨within.lastMarker_le, within.offset_le⟩
  | cons innermost outer =>
      refine ⟨within.lastMarker_le, ?_⟩
      intro list member
      rcases List.mem_cons.mp member with rfl | inOuter
      · exact within.offset_le innermost List.mem_cons_self
      · exact within.offset_le list (List.mem_cons_of_mem _ inOuter)

theorem placeLeaf
    (within : reader.Within length)
    (node : Node) :
    (reader.placeLeaf node).Within length := by
  have unpending : Within { reader with pending := 0, depth := reader.depth - reader.pending } length :=
    ⟨within.lastMarker_le, within.offset_le⟩
  exact unpending.place _

theorem step
    (within : reader.Within length)
    {placed : PlacedLexeme}
    (inside : placed.offset ≤ length)
    (accepted : reader.step placed = .ok next) :
    next.Within length := by
  cases moves_of_step accepted with
  | marker offset room => exact ⟨inside, within.offset_le⟩
  | opening offset room =>
      refine ⟨within.lastMarker_le, ?_⟩
      intro list member
      rcases List.mem_cons.mp member with rfl | outer
      · exact inside
      · exact within.offset_le list outer
  | @closing offset noMarker innermost outer openLists =>
      have closed :
          Within
            { reader with openLists := outer, depth := reader.depth - (1 + innermost.markers) }
            length := by
        refine ⟨within.lastMarker_le, fun list member => within.offset_le list ?_⟩
        rw [openLists]
        exact List.mem_cons_of_mem _ member
      exact closed.place _
  | literal offset body => exact within.placeLeaf _
  | atom offset name => exact within.placeLeaf _

theorem run
    (within : reader.Within length)
    {lexemes : List PlacedLexeme}
    (inside : ∀ placed ∈ lexemes, placed.offset ≤ length)
    (accepted : reader.run lexemes = .ok next) :
    next.Within length := by
  induction lexemes generalizing reader with
  | nil =>
      cases accepted
      exact within
  | cons placed rest ih =>
      obtain ⟨later, stepped, accepted⟩ := Traversal.bind_eq_ok_iff.mp accepted
      exact
        ih (within.step (inside placed List.mem_cons_self) stepped)
          (fun other member => inside other (List.mem_cons_of_mem _ member)) accepted

theorem offset_le_of_run_error
    (within : reader.Within length)
    {lexemes : List PlacedLexeme}
    (inside : ∀ placed ∈ lexemes, placed.offset ≤ length)
    {fault : PlacedFault}
    (refused : reader.run lexemes = .error fault) :
    fault.offset ≤ length := by
  obtain ⟨before, placed, after, next, rfl, accepted, refuses⟩ := exists_refuses_of_run refused
  have here : placed.offset ≤ length := inside placed List.mem_append_cons_self
  have withinNext :=
    within.run (fun other earlier => inside other (List.mem_append_left _ earlier)) accepted
  cases refuses with
  | marker _ _ | opening _ _ | outside _ _ => exact here
  | waiting _ _ => exact withinNext.lastMarker_le

end Within

/-! ## The end of a text -/

theorem secondExpressionFrom_le
    {lexemes : List PlacedLexeme}
    {length offset : Nat}
    (inside : ∀ placed ∈ lexemes, placed.offset ≤ length)
    {depth : Nat}
    {complete : Bool}
    (found : secondExpressionFrom depth complete lexemes = some offset) :
    offset ≤ length := by
  induction lexemes generalizing depth complete with
  | nil => cases found
  | cons placed rest ih =>
      have later := fun other member => inside other (List.mem_cons_of_mem placed member)
      rw [secondExpressionFrom] at found
      split at found
      · cases found
        exact inside placed List.mem_cons_self
      · split at found <;> exact ih later found

/-- What is missing or left over at the end of a text. -/
theorem Within.finish
    {reader : Reader}
    {length : Nat}
    (within : reader.Within length)
    {lexemes : List PlacedLexeme}
    (inside : ∀ placed ∈ lexemes, placed.offset ≤ length)
    {fault : PlacedFault}
    (refused : reader.finish lexemes length = .error fault) :
    fault.offset ≤ length ∧
      (fault.fault = .unclosedList ∨ fault.fault = .danglingMarker ∨
        fault.fault = .emptyDocument ∨ fault.fault = .secondExpression) := by
  rw [Reader.finish] at refused
  split at refused
  next innermost outer openLists =>
    cases refused
    refine ⟨within.offset_le innermost ?_, .inl rfl⟩
    rw [openLists]
    exact List.mem_cons_self
  next =>
    split at refused
    next =>
      cases refused
      exact ⟨within.lastMarker_le, .inr (.inl rfl)⟩
    next =>
      split at refused
      next =>
        cases refused
        exact ⟨Nat.le_refl _, .inr (.inr (.inl rfl))⟩
      next => cases refused
      next =>
        cases refused
        refine ⟨?_, .inr (.inr (.inr rfl))⟩
        dsimp only
        cases found : secondExpression? lexemes with
        | none => exact Nat.le_refl _
        | some offset => exact secondExpressionFrom_le inside found

/-! ## Lexemes that decide -/

/-- What begins after a lexeme that is refused does not matter. -/
theorem run_append_of_error
    {reader : Reader}
    {first : List PlacedLexeme}
    {fault : PlacedFault}
    (refused : reader.run first = .error fault)
    (second : List PlacedLexeme) :
    reader.run (first ++ second) = .error fault := by
  rw [run_append, refused]
  rfl

theorem exists_run_atoms
    (reader : Reader)
    {lexemes : List PlacedLexeme}
    (atoms : ∀ placed ∈ lexemes, ∃ name, placed.lexeme = .atom name) :
    ∃ next, reader.run lexemes = .ok next := by
  induction lexemes generalizing reader with
  | nil => exact ⟨reader, rfl⟩
  | cons placed rest ih =>
      obtain ⟨name, isAtom⟩ := atoms placed List.mem_cons_self
      have stepped : reader.step placed = .ok (reader.placeLeaf (.ofAtom name)) := by
        rw [step, isAtom]
      obtain ⟨next, accepted⟩ := ih (reader.placeLeaf (.ofAtom name)) fun other member =>
        atoms other (List.mem_cons_of_mem _ member)
      exact ⟨next, by rw [run_cons, stepped, ← accepted]; rfl⟩

/-- Atoms at the end are not what lexemes are refused for. -/
theorem run_error_of_append_atoms
    {reader : Reader}
    {first atoms : List PlacedLexeme}
    (areAtoms : ∀ placed ∈ atoms, ∃ name, placed.lexeme = .atom name)
    {fault : PlacedFault}
    (refused : reader.run (first ++ atoms) = .error fault) :
    reader.run first = .error fault := by
  rw [run_append] at refused
  cases ran : reader.run first with
  | error cause =>
      rw [ran] at refused
      exact refused
  | ok next =>
      obtain ⟨last, accepted⟩ := exists_run_atoms next areAtoms
      rw [ran] at refused
      exact nomatch accepted.symm.trans refused

/-- A marker and a closing parenthesis next to each other are not accepted. -/
theorem exists_run_error_of_closed_marker
    (reader : Reader)
    (before after : List PlacedLexeme)
    (marker closing : Nat) :
    ∃ fault,
      reader.run (before ++ ⟨.marker, marker⟩ :: ⟨.closing, closing⟩ :: after) = .error fault := by
  rw [run_append]
  cases reader.run before with
  | error fault => exact ⟨fault, rfl⟩
  | ok next =>
      change ∃ fault, next.run _ = _
      rw [run_cons]
      by_cases room : next.depth + 1 ≤ nestingLimit
      · rw [step_marker next marker room]
        exact ⟨⟨.danglingMarker, marker⟩, rfl⟩
      · rw [step_marker_of_full next marker (Nat.not_le.mp room)]
        exact ⟨_, rfl⟩

/-! ## Markers that wait -/

/-- What has been read ends with the last marker if a marker waits: an invariant of reading. -/
def MarkerLast
    (reader : Reader)
    (read : List PlacedLexeme) : Prop :=
  0 < reader.pending → ∃ before, read = before ++ [⟨.marker, reader.lastMarker⟩]

theorem MarkerLast.step
    {reader next : Reader}
    {placed : PlacedLexeme}
    (accepted : reader.step placed = .ok next)
    (read : List PlacedLexeme) :
    next.MarkerLast (read ++ [placed]) := by
  intro waiting
  cases moves_of_step accepted with
  | marker offset room => exact ⟨read, rfl⟩
  | opening offset room => exact absurd waiting (Nat.lt_irrefl 0)
  | closing offset noMarker openLists => simp [noMarker] at waiting
  | literal offset body => simp [placeLeaf] at waiting
  | atom offset name => simp [placeLeaf] at waiting

theorem MarkerLast.run
    {reader next : Reader}
    {read lexemes : List PlacedLexeme}
    (markerLast : reader.MarkerLast read)
    (accepted : reader.run lexemes = .ok next) :
    next.MarkerLast (read ++ lexemes) :=
  Traversal.foldlM_preserves (fun _ _ read _ _ stepped => .step stepped read) read markerLast
    accepted

end Reader

/-! ## Rejected texts -/

/-- Everything that a text is rejected for. -/
inductive Rejected (text : List Char) : PlacedFault → Prop
  /-- A lexeme is refused. -/
  | atLexeme
      {fault : PlacedFault}
      (refused : Reader.run {} (Lexemes.scan text).found = .error fault) :
      Rejected text fault
  /-- All lexemes are accepted, and then none can be read. -/
  | atObstacle
      {reader : Reader}
      (accepted : Reader.run {} (Lexemes.scan text).found = .ok reader)
      {offset : Nat}
      {obstacle : Obstacle}
      (stopped : (Lexemes.scan text).ending = .stopped offset obstacle) :
      Rejected text ⟨.ofObstacle obstacle, offset⟩
  /-- All of the text has been read, and something is missing or left over. -/
  | atEnd
      {reader : Reader}
      (accepted : Reader.run {} (Lexemes.scan text).found = .ok reader)
      {fault : PlacedFault}
      (unfinished : reader.finish (Lexemes.scan text).found text.length = .error fault) :
      Rejected text fault

theorem rejected_of_readPlaced
    {text : List Char}
    {fault : PlacedFault}
    (rejected : readPlaced text = .error fault) :
    Rejected text fault := by
  rw [readPlaced] at rejected
  cases accepted : Reader.run {} (Lexemes.scan text).found with
  | error cause =>
      rw [accepted] at rejected
      cases rejected
      exact .atLexeme accepted
  | ok reader =>
      simp only [accepted, bind, Except.bind] at rejected
      split at rejected
      next offset obstacle stopped =>
        cases rejected
        exact .atObstacle accepted stopped
      next complete => exact .atEnd accepted rejected

/-- Every fault is placed inside the text, its end included. -/
theorem Rejected.offset_le
    {text : List Char}
    {fault : PlacedFault}
    (rejected : Rejected text fault) :
    fault.offset ≤ text.length := by
  have inside := (Lexemes.within_scan text).offset_le
  have start := Reader.Within.start text.length
  cases rejected with
  | atLexeme refused => exact start.offset_le_of_run_error inside refused
  | atObstacle accepted stopped => exact (Lexemes.within_scan text).stopped_le _ _ stopped
  | atEnd accepted unfinished => exact ((start.run inside accepted).finish inside unfinished).1

/-! ## Longer texts -/

/-- A lexeme that is refused is refused in front of anything. -/
theorem readPlaced_append_of_run_error
    {first : List Char}
    {fault : PlacedFault}
    (refused : Reader.run {} (Lexemes.scan first).found = .error fault)
    (second : List Char) :
    readPlaced (first ++ second) = .error fault := by
  obtain ⟨lastAtom, found, isAtom⟩ := (Scanner.run {} first).found_finish
  rw [Lexemes.scan, found] at refused
  have decided := Reader.run_error_of_append_atoms isAtom refused
  obtain ⟨later, longer⟩ := (Scanner.run {} first).newestFirst_suffix_run second
  obtain ⟨lastAtom', found', -⟩ := (Scanner.run {} (first ++ second)).found_finish
  have refused' :
      Reader.run {} (Lexemes.scan (first ++ second)).found = .error fault := by
    rw [Lexemes.scan, found', Scanner.run_append, ← longer, List.reverse_append, List.append_assoc]
    exact Reader.run_append_of_error decided _
  rw [readPlaced, refused']
  rfl

/-- The scanner does not go on behind a blank character that stopped it. -/
theorem scan_append_of_stray
    {first : List Char}
    {offset : Nat}
    {character : Char}
    (stray : (Lexemes.scan first).ending = .stopped offset (.strayCharacter character))
    (second : List Char) :
    Lexemes.scan (first ++ second) = Lexemes.scan first := by
  have stopped : (Scanner.run {} first).IsStopped := by
    rw [Lexemes.scan, Scanner.finish] at stray
    split at stray
    case h_6 start obstacle mode => exact ⟨start, obstacle, mode⟩
    all_goals cases stray
  rw [Lexemes.scan, Scanner.run_append, Scanner.run_of_isStopped stopped, Lexemes.scan]

/-! ## Final rejections -/

/-- The faults that a longer text is rejected for as well. -/
inductive Malformed.IsFinal (text : List Char) : Malformed → Prop
  | nestedTooDeep (position : Position) : IsFinal text ⟨.nestedTooDeep, position⟩
  | unexpectedClosing (position : Position) : IsFinal text ⟨.unexpectedClosing, position⟩
  | strayCharacter
      (character : Char)
      (position : Position) :
      IsFinal text ⟨.strayCharacter character, position⟩
  /-- A closing parenthesis follows the marker that has no expression. -/
  | closedMarker
      (before after : List PlacedLexeme)
      (marker closing : Nat)
      (follows :
        (Lexemes.scan text).found = before ++ ⟨.marker, marker⟩ :: ⟨.closing, closing⟩ :: after)
      (position : Position) :
      IsFinal text ⟨.danglingMarker, position⟩

/-- Whatever a lexeme is refused for is final. -/
theorem isFinal_of_run_error
    {text : List Char}
    {fault : PlacedFault}
    (refused : Reader.run {} (Lexemes.scan text).found = .error fault) :
    (fault.inText text).IsFinal text := by
  obtain ⟨before, placed, after, next, found, accepted, refuses⟩ :=
    Reader.exists_refuses_of_run refused
  have markerLast : next.MarkerLast ([] ++ before) :=
    Reader.MarkerLast.run (fun impossible => absurd impossible (Nat.lt_irrefl 0)) accepted
  cases refuses with
  | marker _ _ | opening _ _ => exact .nestedTooDeep _
  | outside _ _ => exact .unexpectedClosing _
  | waiting closing waiting =>
      obtain ⟨earlier, isLast⟩ := markerLast waiting
      rw [List.nil_append] at isLast
      rw [isLast, List.append_assoc] at found
      exact .closedMarker earlier after next.lastMarker closing found _

/-- A final fault is that of a lexeme, or of a blank character that stopped the scanner. -/
theorem Rejected.of_isFinal
    {text : List Char}
    {fault : PlacedFault}
    (rejected : Rejected text fault)
    (final : (fault.inText text).IsFinal text) :
    Reader.run {} (Lexemes.scan text).found = .error fault ∨
      ∃ reader character,
        Reader.run {} (Lexemes.scan text).found = .ok reader ∧
          (Lexemes.scan text).ending = .stopped fault.offset (.strayCharacter character) ∧
          fault.fault = .strayCharacter character := by
  cases rejected with
  | atLexeme refused => exact .inl refused
  | @atObstacle reader accepted offset obstacle stopped =>
      cases obstacle with
      | unterminatedLiteral => cases final
      | strayCharacter character => exact .inr ⟨reader, character, accepted, stopped, rfl⟩
  | @atEnd reader accepted fault unfinished =>
      have inside := (Lexemes.within_scan text).offset_le
      have within := (Reader.Within.start text.length).run inside accepted
      obtain ⟨cause, offset⟩ := fault
      obtain ⟨-, rfl | rfl | rfl | rfl⟩ := within.finish inside unfinished <;> cases final
      case closedMarker before after marker closing follows =>
        rw [follows] at accepted
        obtain ⟨fault, refused⟩ :=
          Reader.exists_run_error_of_closed_marker {} before after marker closing
        exact nomatch refused.symm.trans accepted

/-- Whatever is appended to a text, a final rejection stays the same. -/
theorem readPlaced_append_of_isFinal
    {first : List Char}
    {fault : PlacedFault}
    (rejected : Rejected first fault)
    (final : (fault.inText first).IsFinal first)
    (second : List Char) :
    readPlaced (first ++ second) = .error fault := by
  obtain refused | ⟨reader, character, accepted, stray, isStray⟩ := rejected.of_isFinal final
  · exact readPlaced_append_of_run_error refused second
  · rw [readPlaced, scan_append_of_stray stray, accepted]
    simp only [bind, Except.bind, stray]
    rw [SyntaxFault.ofObstacle, ← isStray]

/--
A text is rejected for the first lexeme that is refused, and such a rejection is
final.  So is one for a blank character that may not stand in a gap.  Whatever
is appended, the fault stays the same, and it stays at the same position.
-/
theorem rejection_is_final (first : List Char) :
    (∀ fault,
      Reader.run {} (Lexemes.scan first).found = .error fault →
        readDocument first = .error (fault.inText first) ∧
          (fault.inText first).IsFinal first) ∧
      ∀ malformed,
        readDocument first = .error malformed →
          malformed.IsFinal first →
            ∀ second, readDocument (first ++ second) = .error malformed := by
  constructor
  · intro fault refused
    refine ⟨?_, isFinal_of_run_error refused⟩
    rw [readDocument, readPlaced, refused]
    rfl
  · intro malformed rejected final second
    obtain ⟨fault, rejectedPlaced, rfl⟩ := Traversal.mapError_eq_error_iff.mp rejected
    have decided := rejected_of_readPlaced rejectedPlaced
    have samePosition : fault.inText (first ++ second) = fault.inText first := by
      rw [PlacedFault.inText, Position.ofOffset_append decided.offset_le, PlacedFault.inText]
    have longer := readPlaced_append_of_isFinal decided final second
    exact Traversal.mapError_eq_error_iff.mpr ⟨fault, longer, samePosition⟩

/-- The list is open and the string is not closed, but the marker was refused before. -/
theorem closed_marker_is_rejected_for_good :
    readDocument ['(', '\'', ')'] = .error ⟨.danglingMarker, ⟨1, 2⟩⟩ ∧
      readDocument (['(', '\'', ')'] ++ ['\n', '"']) = .error ⟨.danglingMarker, ⟨1, 2⟩⟩ :=
  ⟨rfl,
    (rejection_is_final _).2 _ rfl (.closedMarker [⟨.opening, 0⟩] [] 1 2 rfl _) ['\n', '"']⟩

end Barrage.Document
