import Barrage.Proofs.Document.Grammar
import Barrage.Proofs.Traversal

/-!
# The reader against the grammar

The reader takes one lexeme after the other and keeps open lists and pending
markers, while the grammar speaks of whole expressions.  Two facts bring them
together.

* Started anywhere, the reader turns the lexemes of an expression into its
  tree, if the tree fits under the limit of nesting where it stands, and
  refuses them otherwise (`run_of_derives`, `run_of_deep`).
* Whatever the reader has accepted, it can still spell: its complete
  expressions, its open lists and its pending markers are a derivation of all
  lexemes read so far (`Reader.Spells`, kept by every step).

The first fact shows that every document is accepted, and that its depth is
within the limit.  The second shows that nothing else is.
-/

namespace Barrage.Document

namespace Reader

/-! ## Reading the lexemes of an expression -/

theorem run_append
    (reader : Reader)
    (before after : List PlacedLexeme) :
    reader.run (before ++ after) =
      (reader.run before).bind fun next => next.run after := by
  simp only [run, List.foldlM_append]
  rfl

/-- The reader after an expression, which takes the pending markers. -/
def afterExpression
    (reader : Reader)
    (lastMarker : Nat)
    (node : Node) : Reader :=
  { reader with
      pending := 0
      lastMarker := lastMarker
      depth := reader.depth - reader.pending }.place
    (node.quotedTimes reader.pending)

theorem afterExpression_of_no_marker
    {reader : Reader}
    (noMarker : reader.pending = 0)
    (lastMarker : Nat)
    (node : Node) :
    reader.afterExpression lastMarker node =
      { reader with lastMarker := lastMarker }.place node := by
  cases reader
  cases noMarker
  rfl

@[simp]
theorem pending_place
    (reader : Reader)
    (node : Node) :
    (reader.place node).pending = reader.pending := by
  obtain ⟨openLists, newestFirst, pending, lastMarker, depth⟩ := reader
  cases openLists <;> rfl

theorem depth_place
    (reader : Reader)
    (node : Node) :
    (reader.place node).depth = reader.depth := by
  obtain ⟨openLists, newestFirst, pending, lastMarker, depth⟩ := reader
  cases openLists <;> rfl

theorem place_lastMarker
    (reader : Reader)
    (node : Node)
    (lastMarker : Nat) :
    { reader.place node with lastMarker := lastMarker } =
      { reader with lastMarker := lastMarker }.place node := by
  obtain ⟨openLists, newestFirst, pending, oldMarker, depth⟩ := reader
  cases openLists <;> rfl

/-- Put complete expressions one after the other where the next one belongs. -/
def placeAll
    (reader : Reader)
    (nodes : List Node) : Reader :=
  nodes.foldl place reader

theorem placeAll_of_inside
    {reader : Reader}
    {innermost : OpenList}
    {outer : List OpenList}
    (openLists : reader.openLists = innermost :: outer)
    (nodes : List Node) :
    reader.placeAll nodes =
      { reader with
        openLists :=
          { innermost with newestFirst := nodes.reverse ++ innermost.newestFirst } :: outer } := by
  obtain ⟨_, newestFirst, pending, lastMarker, depth⟩ := reader
  cases openLists
  induction nodes generalizing innermost with
  | nil => rfl
  | cons node rest ih =>
      rw [List.reverse_cons, List.append_assoc]
      exact ih

theorem placeAll_of_outside
    {reader : Reader}
    (outside : reader.openLists = [])
    (nodes : List Node) :
    reader.placeAll nodes =
      { reader with newestFirst := nodes.reverse ++ reader.newestFirst } := by
  obtain ⟨_, newestFirst, pending, lastMarker, depth⟩ := reader
  cases outside
  induction nodes generalizing newestFirst with
  | nil => rfl
  | cons node rest ih =>
      rw [List.reverse_cons, List.append_assoc]
      exact ih (node :: newestFirst)

theorem step_marker
    (reader : Reader)
    (offset : Nat)
    (fits : reader.depth + 1 ≤ nestingLimit) :
    reader.step ⟨.marker, offset⟩ =
      .ok
        { reader with
          pending := reader.pending + 1
          lastMarker := offset
          depth := reader.depth + 1 } :=
  if_neg (Nat.not_lt.mpr fits)

theorem step_opening
    (reader : Reader)
    (offset : Nat)
    (fits : reader.depth + 1 ≤ nestingLimit) :
    reader.step ⟨.opening, offset⟩ =
      .ok
        { reader with
          openLists := ⟨[], reader.pending, offset⟩ :: reader.openLists
          pending := 0
          depth := reader.depth + 1 } :=
  if_neg (Nat.not_lt.mpr fits)

theorem step_closing
    {reader : Reader}
    {innermost : OpenList}
    {outer : List OpenList}
    (openLists : reader.openLists = innermost :: outer)
    (noMarker : reader.pending = 0)
    (offset : Nat) :
    reader.step ⟨.closing, offset⟩ =
      .ok
        ({ reader with
            openLists := outer
            depth := reader.depth - (1 + innermost.markers) }.place
          ((Node.list innermost.newestFirst.reverse).quotedTimes innermost.markers)) := by
  simp [step, openLists, noMarker]

end Reader

/--
What the reader makes of these lexemes wherever it meets them: the tree, if
there is room for it under the limit of nesting, and a fault if there is not.
-/
structure ReadAs
    (lexemes : List Lexeme)
    (node : Node) : Prop where
  accepted :
    ∀ (reader : Reader) (placed : List PlacedLexeme),
      placed.map (·.lexeme) = lexemes →
        reader.depth + node.nesting ≤ nestingLimit →
          ∃ lastMarker,
            reader.run placed = .ok (reader.afterExpression lastMarker node)
  refused :
    ∀ (reader : Reader) (placed : List PlacedLexeme),
      placed.map (·.lexeme) = lexemes →
        reader.depth ≤ nestingLimit →
          nestingLimit < reader.depth + node.nesting →
            ∃ fault, reader.run placed = .error fault

namespace ReadAs

theorem leaf
    {lexeme : Lexeme}
    {node : Node}
    (flat : node.nesting = 0)
    (step :
      ∀ (reader : Reader) (offset : Nat),
        reader.step ⟨lexeme, offset⟩ = .ok (reader.placeLeaf node)) :
    ReadAs [lexeme] node where
  accepted := by
    intro reader placed lexemes _
    obtain ⟨⟨lexeme, offset⟩, rfl, rfl⟩ := List.map_eq_singleton_iff.mp lexemes
    refine ⟨reader.lastMarker, ?_⟩
    rw [Reader.run_cons, step]
    rfl
  refused := by
    intro reader placed _ within exceeds
    omega

/-- A run of expressions is placed one after the other. -/
theorem all_accepted
    (parts : List (List Lexeme × Node))
    (items : ∀ part ∈ parts, ReadAs part.1 part.2)
    (reader : Reader)
    (noMarker : reader.pending = 0)
    (placed : List PlacedLexeme)
    (lexemes : placed.map (·.lexeme) = parts.flatMap (·.1))
    (fits : reader.depth + Node.nestingOfAll (parts.map (·.2)) ≤ nestingLimit) :
    ∃ lastMarker,
      reader.run placed =
        .ok (Reader.placeAll { reader with lastMarker := lastMarker } (parts.map (·.2))) := by
  induction parts generalizing reader placed with
  | nil =>
      obtain rfl := List.map_eq_nil_iff.mp lexemes
      exact ⟨reader.lastMarker, rfl⟩
  | cons part rest ih =>
      obtain ⟨first, later, rfl, firstLexemes, laterLexemes⟩ :=
        List.map_eq_append_iff.mp lexemes
      simp only [List.map_cons, Node.nestingOfAll] at fits
      obtain ⟨marker, firstRun⟩ :=
        (items part List.mem_cons_self).accepted reader first firstLexemes (by omega)
      rw [Reader.afterExpression_of_no_marker noMarker] at firstRun
      obtain ⟨lastMarker, laterRun⟩ :=
        ih (fun other member => items other (List.mem_cons_of_mem _ member))
          ({ reader with lastMarker := marker }.place part.2)
          (by rw [Reader.pending_place, noMarker]) later laterLexemes
          (by rw [Reader.depth_place]; dsimp only; omega)
      refine ⟨lastMarker, ?_⟩
      rw [Reader.run_append, firstRun]
      rw [Reader.place_lastMarker] at laterRun
      exact laterRun

/-- If one of the expressions does not fit, the reader stops in the first that does not. -/
theorem all_refused
    (parts : List (List Lexeme × Node))
    (items : ∀ part ∈ parts, ReadAs part.1 part.2)
    (reader : Reader)
    (noMarker : reader.pending = 0)
    (placed : List PlacedLexeme)
    (lexemes : placed.map (·.lexeme) = parts.flatMap (·.1))
    (within : reader.depth ≤ nestingLimit)
    (exceeds : nestingLimit < reader.depth + Node.nestingOfAll (parts.map (·.2))) :
    ∃ fault, reader.run placed = .error fault := by
  induction parts generalizing reader placed with
  | nil =>
      simp only [List.map_nil, Node.nestingOfAll] at exceeds
      omega
  | cons part rest ih =>
      obtain ⟨first, later, rfl, firstLexemes, laterLexemes⟩ :=
        List.map_eq_append_iff.mp lexemes
      simp only [List.map_cons, Node.nestingOfAll] at exceeds
      rw [Reader.run_append]
      by_cases fits : reader.depth + part.2.nesting ≤ nestingLimit
      · obtain ⟨marker, firstRun⟩ :=
          (items part List.mem_cons_self).accepted reader first firstLexemes fits
        rw [Reader.afterExpression_of_no_marker noMarker] at firstRun
        rw [firstRun]
        exact
          ih (fun other member => items other (List.mem_cons_of_mem _ member))
            ({ reader with lastMarker := marker }.place part.2)
            (by rw [Reader.pending_place, noMarker]) later laterLexemes
            (by rw [Reader.depth_place]; exact within)
            (by rw [Reader.depth_place]; dsimp only; omega)
      · obtain ⟨fault, firstRun⟩ :=
          (items part List.mem_cons_self).refused reader first firstLexemes within (by omega)
        exact ⟨fault, by rw [firstRun]; rfl⟩

theorem list
    (parts : List (List Lexeme × Node))
    (items : ∀ part ∈ parts, ReadAs part.1 part.2) :
    ReadAs
      (.opening :: (parts.flatMap (·.1) ++ [.closing]))
      (.list (parts.map (·.2))) where
  accepted := by
    intro reader placed lexemes fits
    obtain ⟨⟨_, start⟩, tail, rfl, rfl, tailLexemes⟩ := List.map_eq_cons_iff.mp lexemes
    obtain ⟨inner, last, rfl, innerLexemes, lastLexemes⟩ :=
      List.map_eq_append_iff.mp tailLexemes
    obtain ⟨⟨_, finish⟩, rfl, rfl⟩ := List.map_eq_singleton_iff.mp lastLexemes
    simp only [Node.nesting] at fits
    obtain ⟨lastMarker, innerRun⟩ :=
      all_accepted parts items
        { reader with
          openLists := ⟨[], reader.pending, start⟩ :: reader.openLists
          pending := 0
          depth := reader.depth + 1 }
        rfl inner innerLexemes (by dsimp only; omega)
    rw [Reader.placeAll_of_inside rfl] at innerRun
    refine ⟨lastMarker, ?_⟩
    rw [Reader.run_cons, Reader.step_opening reader start (by omega)]
    simp only [Except.bind]
    rw [Reader.run_append, innerRun]
    simp only [Except.bind, Reader.run_cons, Reader.run_nil]
    rw [Reader.step_closing rfl rfl]
    have depth : reader.depth + 1 - (1 + reader.pending) = reader.depth - reader.pending := by
      omega
    simp only [List.append_nil, List.reverse_reverse, depth]
    rfl
  refused := by
    intro reader placed lexemes within exceeds
    obtain ⟨⟨_, start⟩, tail, rfl, rfl, tailLexemes⟩ := List.map_eq_cons_iff.mp lexemes
    obtain ⟨inner, last, rfl, innerLexemes, lastLexemes⟩ :=
      List.map_eq_append_iff.mp tailLexemes
    simp only [Node.nesting] at exceeds
    rw [Reader.run_cons]
    by_cases room : reader.depth + 1 ≤ nestingLimit
    · obtain ⟨fault, innerRun⟩ :=
        all_refused parts items
          { reader with
            openLists := ⟨[], reader.pending, start⟩ :: reader.openLists
            pending := 0
            depth := reader.depth + 1 }
          rfl inner innerLexemes room (by dsimp only; omega)
      rw [Reader.step_opening reader start room]
      simp only [Except.bind]
      rw [Reader.run_append, innerRun]
      exact ⟨fault, rfl⟩
    · have stops : nestingLimit < reader.depth + 1 := Nat.not_le.mp room
      exact ⟨⟨.nestedTooDeep, start⟩, by simp [Reader.step, stops, Except.bind]⟩

theorem quoted
    {lexemes : List Lexeme}
    {inner : Node}
    (expression : ReadAs lexemes inner) :
    ReadAs (.marker :: lexemes) (.quoted inner) where
  accepted := by
    intro reader placed placedLexemes fits
    obtain ⟨⟨_, start⟩, tail, rfl, rfl, tailLexemes⟩ :=
      List.map_eq_cons_iff.mp placedLexemes
    simp only [Node.nesting] at fits
    obtain ⟨lastMarker, tailRun⟩ :=
      expression.accepted
        { reader with
          pending := reader.pending + 1
          lastMarker := start
          depth := reader.depth + 1 }
        tail tailLexemes (by dsimp only; omega)
    refine ⟨lastMarker, ?_⟩
    rw [Reader.run_cons, Reader.step_marker reader start (by omega)]
    simp only [Except.bind, tailRun, Reader.afterExpression, Node.quotedTimes_quoted,
      Nat.add_sub_add_right]
  refused := by
    intro reader placed placedLexemes within exceeds
    obtain ⟨⟨_, start⟩, tail, rfl, rfl, tailLexemes⟩ :=
      List.map_eq_cons_iff.mp placedLexemes
    simp only [Node.nesting] at exceeds
    rw [Reader.run_cons]
    by_cases room : reader.depth + 1 ≤ nestingLimit
    · rw [Reader.step_marker reader start room]
      exact expression.refused _ tail tailLexemes room (by dsimp only; omega)
    · have stops : nestingLimit < reader.depth + 1 := Nat.not_le.mp room
      exact ⟨⟨.nestedTooDeep, start⟩, by simp [Reader.step, stops, Except.bind]⟩

end ReadAs

/-- The reader agrees with every derivation, from every state it can be in. -/
theorem Derives.readAs
    {lexemes : List Lexeme}
    {node : Node}
    (derives : Derives lexemes node) :
    ReadAs lexemes node := by
  induction derives with
  | atom name => exact .leaf (Node.nesting_ofAtom name) fun _ _ => rfl
  | literal body => exact .leaf (Node.nesting_ofLiteral body) fun _ _ => rfl
  | list parts _ ih => exact .list parts ih
  | quoted _ ih => exact .quoted ih

/-! ## What the reader has read -/

/--
The lexemes that open lists are spelled with, up to the point that the
innermost one has reached.  Outside of all lists these are the complete
expressions.
-/
inductive OpenSpelling : List OpenList → List Node → List Lexeme → Prop
  | outside
      {newestFirst : List Node}
      {lexemes : List Lexeme}
      (complete : DerivesAll lexemes newestFirst.reverse) :
      OpenSpelling [] newestFirst lexemes
  | inside
      {innermost : OpenList}
      {outer : List OpenList}
      {newestFirst : List Node}
      {before items : List Lexeme}
      (around : OpenSpelling outer newestFirst before)
      (complete : DerivesAll items innermost.newestFirst.reverse) :
      OpenSpelling (innermost :: outer) newestFirst
        (before ++ List.replicate innermost.markers .marker ++ .opening :: items)

namespace Reader

/-- The lexemes are what the reader keeps, written out: the invariant of reading. -/
def Spells
    (reader : Reader)
    (lexemes : List Lexeme) : Prop :=
  ∃ before,
    OpenSpelling reader.openLists reader.newestFirst before ∧
      lexemes = before ++ List.replicate reader.pending .marker

theorem spells_start : Spells {} [] :=
  ⟨[], .outside .nil, rfl⟩

/-- Everything that a lexeme can do to the reader when it is accepted. -/
inductive Moves (reader : Reader) : PlacedLexeme → Reader → Prop
  | marker
      (offset : Nat)
      (room : reader.depth + 1 ≤ nestingLimit) :
      Moves reader ⟨.marker, offset⟩
        { reader with
          pending := reader.pending + 1
          lastMarker := offset
          depth := reader.depth + 1 }
  | opening
      (offset : Nat)
      (room : reader.depth + 1 ≤ nestingLimit) :
      Moves reader ⟨.opening, offset⟩
        { reader with
          openLists := ⟨[], reader.pending, offset⟩ :: reader.openLists
          pending := 0
          depth := reader.depth + 1 }
  | closing
      (offset : Nat)
      (noMarker : reader.pending = 0)
      {innermost : OpenList}
      {outer : List OpenList}
      (openLists : reader.openLists = innermost :: outer) :
      Moves reader ⟨.closing, offset⟩
        ({ reader with
            openLists := outer
            depth := reader.depth - (1 + innermost.markers) }.place
          ((Node.list innermost.newestFirst.reverse).quotedTimes innermost.markers))
  | literal
      (offset : Nat)
      (body : List Char) :
      Moves reader ⟨.literal body, offset⟩ (reader.placeLeaf (.ofLiteral body))
  | atom
      (offset : Nat)
      (name : List Char) :
      Moves reader ⟨.atom name, offset⟩ (reader.placeLeaf (.ofAtom name))

theorem moves_of_step
    {reader next : Reader}
    {placed : PlacedLexeme}
    (step : reader.step placed = .ok next) :
    reader.Moves placed next := by
  obtain ⟨lexeme, offset⟩ := placed
  cases lexeme with
  | marker =>
      by_cases room : reader.depth + 1 ≤ nestingLimit
      · rw [step_marker reader offset room] at step
        cases step
        exact .marker offset room
      · simp [Reader.step, Nat.not_le.mp room] at step
  | opening =>
      by_cases room : reader.depth + 1 ≤ nestingLimit
      · rw [step_opening reader offset room] at step
        cases step
        exact .opening offset room
      · simp [Reader.step, Nat.not_le.mp room] at step
  | closing =>
      by_cases noMarker : reader.pending = 0
      · cases openLists : reader.openLists with
        | nil => simp [Reader.step, noMarker, openLists] at step
        | cons innermost outer =>
            rw [step_closing openLists noMarker] at step
            cases step
            exact .closing offset noMarker openLists
      · simp [Reader.step, Nat.pos_of_ne_zero noMarker] at step
  | literal body =>
      cases step
      exact .literal offset body
  | atom name =>
      cases step
      exact .atom offset name

theorem spells_place
    (reader : Reader)
    {before lexemes : List Lexeme}
    {node : Node}
    (around : OpenSpelling reader.openLists reader.newestFirst before)
    (noMarker : reader.pending = 0)
    (expression : Derives lexemes node) :
    (reader.place node).Spells (before ++ lexemes) := by
  obtain ⟨openLists, newestFirst, pending, lastMarker, depth⟩ := reader
  cases noMarker
  cases around with
  | outside complete =>
      refine ⟨before ++ lexemes, .outside ?_, by simp [place]⟩
      simpa [place] using complete.snoc expression
  | inside around complete =>
      refine ⟨_, .inside around ?_, by simp [place]; rfl⟩
      simpa using complete.snoc expression

theorem spells_placeLeaf
    {reader : Reader}
    {lexemes : List Lexeme}
    {lexeme : Lexeme}
    {node : Node}
    (spells : reader.Spells lexemes)
    (expression : Derives [lexeme] node) :
    (reader.placeLeaf node).Spells (lexemes ++ [lexeme]) := by
  obtain ⟨before, around, rfl⟩ := spells
  rw [List.append_assoc]
  exact
    spells_place
      { reader with pending := 0, depth := reader.depth - reader.pending }
      around rfl (expression.quotedTimes reader.pending)

theorem Spells.step
    {reader next : Reader}
    {lexemes : List Lexeme}
    (spells : reader.Spells lexemes)
    {placed : PlacedLexeme}
    (step : reader.step placed = .ok next) :
    next.Spells (lexemes ++ [placed.lexeme]) := by
  cases moves_of_step step with
  | marker offset room =>
      obtain ⟨before, around, rfl⟩ := spells
      exact ⟨before, around, by simp [List.replicate_succ']⟩
  | opening offset room =>
      obtain ⟨before, around, rfl⟩ := spells
      exact ⟨_, .inside around .nil, by simp⟩
  | @closing offset noMarker innermost outer openLists =>
      obtain ⟨before, around, rfl⟩ := spells
      rw [openLists] at around
      cases around with
      | inside around complete =>
          have spelled :=
            spells_place
              { reader with
                openLists := outer
                depth := reader.depth - (1 + innermost.markers) }
              around noMarker (complete.derives_list.quotedTimes innermost.markers)
          simpa [noMarker] using spelled
  | literal offset body => exact spells_placeLeaf spells (.literal body)
  | atom offset name => exact spells_placeLeaf spells (.atom name)

theorem Spells.run
    {reader last : Reader}
    {lexemes : List Lexeme}
    (spells : reader.Spells lexemes)
    {placed : List PlacedLexeme}
    (run : reader.run placed = .ok last) :
    last.Spells (lexemes ++ placed.map (·.lexeme)) := by
  induction placed generalizing reader lexemes with
  | nil =>
      cases run
      simpa using spells
  | cons first rest ih =>
      rw [run_cons] at run
      cases firstStep : reader.step first with
      | error fault =>
          rw [firstStep] at run
          cases run
      | ok next =>
          rw [firstStep] at run
          simpa using ih (spells.step firstStep) run

/-- The reader hands out a tree only at the end of a single expression. -/
theorem Spells.derives_of_finish
    {reader : Reader}
    {lexemes : List Lexeme}
    (spells : reader.Spells lexemes)
    {placed : List PlacedLexeme}
    {length : Nat}
    {node : Node}
    (finish : reader.finish placed length = .ok node) :
    Derives lexemes node := by
  obtain ⟨before, around, rfl⟩ := spells
  rw [Reader.finish] at finish
  split at finish
  · cases finish
  next openLists =>
    split at finish
    · cases finish
    next noMarker =>
      split at finish
      · cases finish
      next complete =>
        cases finish
        rw [openLists, complete] at around
        cases around with
        | outside complete =>
            simpa [Nat.eq_zero_of_not_pos noMarker] using complete.derives_of_singleton
      · cases finish

end Reader

/-! ## Documents -/

theorem readDocument_eq_ok_iff_readPlaced
    {text : List Char}
    {node : Node} :
    readDocument text = .ok node ↔ readPlaced text = .ok node := by
  rw [readDocument]
  exact Traversal.mapError_eq_ok_iff

/-- What is read is derived, and its depth is within the limit. -/
theorem derives_of_readPlaced
    {text : List Char}
    {node : Node}
    (read : readPlaced text = .ok node) :
    (Lexemes.scan text).ending = .complete ∧
      Derives ((Lexemes.scan text).found.map (·.lexeme)) node ∧
        node.nesting ≤ nestingLimit := by
  rw [readPlaced] at read
  cases run : Reader.run {} (Lexemes.scan text).found with
  | error fault =>
      rw [run] at read
      cases read
  | ok reader =>
      simp only [run, bind, Except.bind] at read
      split at read
      · cases read
      next complete =>
        have derives := (Reader.spells_start.run run).derives_of_finish read
        refine ⟨complete, derives, ?_⟩
        refine Nat.le_of_not_lt fun exceeds => ?_
        obtain ⟨fault, refused⟩ :=
          derives.readAs.refused {} _ rfl (Nat.zero_le _) (by dsimp only; omega)
        rw [run] at refused
        cases refused

/-- What is derived and within the limit of depth is read. -/
theorem readPlaced_of_derives
    {text : List Char}
    {node : Node}
    (complete : (Lexemes.scan text).ending = .complete)
    (derives : Derives ((Lexemes.scan text).found.map (·.lexeme)) node)
    (fits : node.nesting ≤ nestingLimit) :
    readPlaced text = .ok node := by
  obtain ⟨lastMarker, run⟩ :=
    derives.readAs.accepted {} _ rfl (by dsimp only; omega)
  simp only [readPlaced, run, complete, bind, Except.bind]
  rfl

/--
Reading accepts exactly the texts that are one expression with at most 256
lists and quote markers around each other, and answers with the tree that the
grammar gives them.  Every other text is refused.
-/
theorem readDocument_eq_ok_iff
    (text : List Char) :
    (∀ node,
      readDocument text = .ok node ↔
        (Lexemes.scan text).ending = .complete ∧
          Derives ((Lexemes.scan text).found.map (·.lexeme)) node ∧
            node.nesting ≤ 256) ∧
      ((¬ ∃ node,
          (Lexemes.scan text).ending = .complete ∧
            Derives ((Lexemes.scan text).found.map (·.lexeme)) node ∧
              node.nesting ≤ 256) →
        ∃ fault, readDocument text = .error fault) := by
  have accepts : ∀ node,
      readDocument text = .ok node ↔
        (Lexemes.scan text).ending = .complete ∧
          Derives ((Lexemes.scan text).found.map (·.lexeme)) node ∧
            node.nesting ≤ 256 := by
    intro node
    rw [readDocument_eq_ok_iff_readPlaced]
    constructor
    · exact derives_of_readPlaced
    · rintro ⟨complete, derives, fits⟩
      exact readPlaced_of_derives complete derives fits
  refine ⟨accepts, fun noTree => ?_⟩
  cases outcome : readDocument text with
  | ok node => exact absurd ⟨node, (accepts node).mp outcome⟩ noTree
  | error fault => exact ⟨fault, rfl⟩

end Barrage.Document
