import Barrage.Proofs.Document.Diagnosis

/-!
# A second expression

A text of several expressions is refused, and the fault is placed where the
second one begins.  The reader keeps trees and no places for them, so this
place is found by going through the lexemes once more and counting parentheses,
without regard to markers.

The count finds the end of an expression where the grammar has it: it comes out
of a whole expression as it went in, except that outside of all lists an
expression has ended now (`Derives.passedOver`).  The reader for its part comes
to the end of such a text with all its expressions complete, unless one of them
is nested too deep.
-/

namespace Barrage.Document

open Barrage.Text

/-! ## Counting parentheses -/

/--
The count passes over these lexemes, wherever it has to look at them.  It is as
deep as before, and outside of all lists an expression has ended.
-/
def PassedOver (lexemes : List Lexeme) : Prop :=
  ∀ (placed rest : List PlacedLexeme) (depth : Nat) (complete : Bool),
    placed.map (·.lexeme) = lexemes →
      (complete && depth == 0) = false →
        secondExpressionFrom depth complete (placed ++ rest) =
          secondExpressionFrom depth (complete || depth == 0) rest

namespace PassedOver

theorem leaf
    {lexeme : Lexeme}
    (isLeaf : lexeme ≠ .opening ∧ lexeme ≠ .closing ∧ lexeme ≠ .marker) :
    PassedOver [lexeme] := by
  intro placed rest depth complete lexemes goesOn
  obtain ⟨⟨lexeme, offset⟩, rfl, rfl⟩ := List.map_eq_singleton_iff.mp lexemes
  rw [List.singleton_append, secondExpressionFrom, goesOn]
  cases lexeme with
  | opening => exact absurd rfl isLeaf.1
  | closing => exact absurd rfl isLeaf.2.1
  | marker => exact absurd rfl isLeaf.2.2
  | literal body => rfl
  | atom name => rfl

/-- Inside a list no item ends an expression of the document. -/
theorem items
    (parts : List (List Lexeme × Node))
    (items : ∀ part ∈ parts, PassedOver part.1)
    (placed rest : List PlacedLexeme)
    (lexemes : placed.map (·.lexeme) = parts.flatMap (·.1))
    (depth : Nat)
    (complete : Bool) :
    secondExpressionFrom (depth + 1) complete (placed ++ rest) =
      secondExpressionFrom (depth + 1) complete rest := by
  induction parts generalizing placed with
  | nil =>
      obtain rfl := List.map_eq_nil_iff.mp lexemes
      rfl
  | cons part others ih =>
      obtain ⟨first, later, rfl, firstLexemes, laterLexemes⟩ :=
        List.map_eq_append_iff.mp lexemes
      have passed :=
        items part List.mem_cons_self first (later ++ rest) (depth + 1) complete firstLexemes
          (Bool.and_false complete)
      have deeper : (depth + 1 == 0) = false := rfl
      rw [List.append_assoc, passed, deeper, Bool.or_false]
      exact
        ih (fun other member => items other (List.mem_cons_of_mem _ member)) later laterLexemes

theorem list
    (parts : List (List Lexeme × Node))
    (items : ∀ part ∈ parts, PassedOver part.1) :
    PassedOver (.opening :: (parts.flatMap (·.1) ++ [.closing])) := by
  intro placed rest depth complete lexemes goesOn
  obtain ⟨⟨_, start⟩, tail, rfl, rfl, tailLexemes⟩ := List.map_eq_cons_iff.mp lexemes
  obtain ⟨inner, last, rfl, innerLexemes, lastLexemes⟩ :=
    List.map_eq_append_iff.mp tailLexemes
  obtain ⟨⟨_, finish⟩, rfl, rfl⟩ := List.map_eq_singleton_iff.mp lastLexemes
  rw [List.cons_append, secondExpressionFrom, goesOn, List.append_assoc]
  have inside :=
    PassedOver.items parts items inner (⟨.closing, finish⟩ :: rest) innerLexemes depth complete
  have closed :
      secondExpressionFrom (depth + 1) complete (⟨.closing, finish⟩ :: rest) =
        secondExpressionFrom depth (complete || depth == 0) rest := by
    have deeper : (depth + 1 == 0) = false := rfl
    rw [secondExpressionFrom, deeper, Bool.and_false]
    rfl
  exact inside.trans closed

theorem quoted
    {lexemes : List Lexeme}
    (expression : PassedOver lexemes) :
    PassedOver (.marker :: lexemes) := by
  intro placed rest depth complete placedLexemes goesOn
  obtain ⟨⟨_, start⟩, tail, rfl, rfl, tailLexemes⟩ :=
    List.map_eq_cons_iff.mp placedLexemes
  rw [List.cons_append, secondExpressionFrom, goesOn]
  exact expression tail rest depth complete tailLexemes goesOn

end PassedOver

/-- The count agrees with every derivation, at every depth. -/
theorem Derives.passedOver
    {lexemes : List Lexeme}
    {node : Node}
    (derives : Derives lexemes node) :
    PassedOver lexemes := by
  induction derives with
  | atom name | literal body =>
      exact .leaf ⟨Lexeme.noConfusion, Lexeme.noConfusion, Lexeme.noConfusion⟩
  | list parts _ ih => exact .list parts ih
  | quoted _ ih => exact .quoted ih

/-- After one complete expression the count stops at the next lexeme. -/
theorem secondExpression?_of_derives
    {first : List PlacedLexeme}
    {node : Node}
    (derives : Derives (first.map (·.lexeme)) node)
    (placed : PlacedLexeme)
    (rest : List PlacedLexeme) :
    secondExpression? (first ++ placed :: rest) = some placed.offset :=
  derives.passedOver first (placed :: rest) 0 false rfl rfl

/-! ## Texts of several expressions -/

theorem Derives.ne_nil
    {lexemes : List Lexeme}
    {node : Node}
    (derives : Derives lexemes node) :
    lexemes ≠ [] := by
  cases derives <;> exact List.cons_ne_nil _ _

/-- An expression in front of a run makes it longer. -/
theorem DerivesAll.cons
    {first rest : List Lexeme}
    {node : Node}
    {nodes : List Node}
    (expression : Derives first node)
    (run : DerivesAll rest nodes) :
    DerivesAll (first ++ rest) (node :: nodes) := by
  obtain ⟨parts, rfl, rfl, items⟩ := run
  refine ⟨(first, node) :: parts, rfl, rfl, ?_⟩
  intro part member
  rcases List.mem_cons.mp member with rfl | later
  · exact expression
  · exact items part later

/--
The lexemes are two expressions or more, none of them nested too deep, and the
second one begins with this lexeme.
-/
def BeginsSecond
    (lexemes : List PlacedLexeme)
    (placed : PlacedLexeme) : Prop :=
  ∃ first rest node second later,
    lexemes = first ++ placed :: rest ∧
      Derives (first.map (·.lexeme)) node ∧
        DerivesAll ((placed :: rest).map (·.lexeme)) (second :: later) ∧
          ∀ tree ∈ node :: second :: later, tree.nesting ≤ 256

theorem beginsSecond_of_parts
    {lexemes : List PlacedLexeme}
    {parts : List (List Lexeme × Node)}
    (spelled : lexemes.map (·.lexeme) = parts.flatMap (·.1))
    (enough : 2 ≤ parts.length)
    (items : ∀ part ∈ parts, Derives part.1 part.2)
    (fits : ∀ tree ∈ parts.map (·.2), tree.nesting ≤ 256) :
    ∃ placed, BeginsSecond lexemes placed := by
  match parts with
  | [] => exact absurd enough (Nat.not_succ_le_zero 1)
  | [_] => exact absurd enough (Nat.not_succ_le_self 1)
  | first :: next :: others =>
      obtain ⟨firstPlaced, tail, found, firstLexemes, tailLexemes⟩ :=
        List.map_eq_append_iff.mp spelled
      match tail with
      | [] =>
          have nothing := (List.append_eq_nil_iff.mp tailLexemes.symm).1
          exact absurd nothing (items next (by simp)).ne_nil
      | placed :: rest =>
          refine
            ⟨placed, firstPlaced, rest, first.2, next.2, _, found, ?_,
              ⟨next :: others, tailLexemes.symm, rfl, ?_⟩, fits⟩
          · rw [firstLexemes]
            exact items first List.mem_cons_self
          · intro part member
            exact items part (List.mem_cons_of_mem _ member)

theorem BeginsSecond.secondExpression?_eq
    {lexemes : List PlacedLexeme}
    {placed : PlacedLexeme}
    (begins : BeginsSecond lexemes placed) :
    secondExpression? lexemes = some placed.offset := by
  obtain ⟨first, rest, node, second, later, rfl, derives, -, -⟩ := begins
  exact secondExpression?_of_derives derives placed rest

/-- A second expression is what the reader reports when nothing else is wrong. -/
theorem Reader.finish_eq_secondExpression_iff
    (reader : Reader)
    (lexemes : List PlacedLexeme)
    (length : Nat)
    {fault : PlacedFault} :
    (reader.finish lexemes length = .error fault ∧ fault.fault = .secondExpression) ↔
      reader.openLists = [] ∧
        reader.pending = 0 ∧
          2 ≤ reader.newestFirst.length ∧
            fault = ⟨.secondExpression, (secondExpression? lexemes).getD length⟩ := by
  obtain ⟨openLists, newestFirst, pending, lastMarker, depth⟩ := reader
  constructor
  · rintro ⟨rejected, second⟩
    rw [finish] at rejected
    split at rejected
    next =>
      cases rejected
      cases second
    next noList =>
      split at rejected
      next =>
        cases rejected
        cases second
      next notWaiting =>
        split at rejected
        next =>
          cases rejected
          cases second
        next => cases rejected
        next notEmpty notSingle =>
          cases rejected
          refine ⟨noList, Nat.eq_zero_of_not_pos notWaiting, ?_, rfl⟩
          rcases newestFirst with _ | ⟨node, _ | ⟨next, rest⟩⟩
          · exact absurd rfl notEmpty
          · exact absurd rfl (notSingle node)
          · exact Nat.le_add_left 2 rest.length
  · rintro ⟨noList, notWaiting, several, rfl⟩
    dsimp only at noList notWaiting several
    subst noList notWaiting
    rcases newestFirst with _ | ⟨node, _ | ⟨next, rest⟩⟩
    · exact absurd several (Nat.not_succ_le_zero 1)
    · exact absurd several (Nat.not_succ_le_self 1)
    · exact ⟨rfl, rfl⟩

section Text

variable
    {text : List Char}
    {placed : PlacedLexeme}
    {fault : PlacedFault}

theorem readPlaced_of_beginsSecond
    (complete : (Lexemes.scan text).ending = .complete)
    (begins : BeginsSecond (Lexemes.scan text).found placed) :
    readPlaced text = .error ⟨.secondExpression, placed.offset⟩ := by
  have counted := begins.secondExpression?_eq
  obtain ⟨first, rest, node, second, later, found, derives, run, fits⟩ := begins
  obtain ⟨parts, lexemes, nodes, items⟩ := DerivesAll.cons derives run
  have spelled : (Lexemes.scan text).found.map (·.lexeme) = parts.flatMap (·.1) := by
    rw [lexemes, found, List.map_append]
  have room : Node.nestingOfAll (parts.map (·.2)) ≤ nestingLimit := by
    rw [nodes]
    exact Node.nestingOfAll_le_iff.mpr fits
  obtain ⟨marker, accepted⟩ :=
    ReadAs.all_accepted parts (fun part member => (items part member).readAs) {} rfl _ spelled
      (by dsimp only; omega)
  rw [nodes, Reader.placeAll_of_outside rfl] at accepted
  have several : 2 ≤ ((node :: second :: later).reverse ++ []).length := by simp
  rw [readPlaced_of_complete accepted complete]
  have finished :=
    (Reader.finish_eq_secondExpression_iff
      { newestFirst := (node :: second :: later).reverse ++ [], lastMarker := marker }
      (Lexemes.scan text).found text.length).mpr ⟨rfl, rfl, several, rfl⟩
  rw [finished.1, counted]
  rfl

/-- A reader that comes to the end of a text with a second expression has read all of it. -/
theorem exists_finish_of_secondExpression
    (rejected : readPlaced text = .error fault)
    (second : fault.fault = .secondExpression) :
    (Lexemes.scan text).ending = .complete ∧
      ∃ reader,
        Reader.run {} (Lexemes.scan text).found = .ok reader ∧
          reader.finish (Lexemes.scan text).found text.length = .error fault := by
  cases ran : Reader.run {} (Lexemes.scan text).found with
  | error cause =>
      rw [readPlaced, ran] at rejected
      cases rejected
      obtain ⟨before, placed, after, found, inoffensive, offends⟩ := Reader.run_eq_error_iff.mp ran
      have diagnosed : Diagnosed text fault := .offence found inoffensive offends
      exact absurd second diagnosed.fault_ne_secondExpression
  | ok reader =>
      cases ending : (Lexemes.scan text).ending with
      | stopped offset obstacle =>
          rw [readPlaced_of_stopped ran ending] at rejected
          cases rejected
          have diagnosed := Diagnosed.unreadable (Reader.inoffensive_of_run ran) ending
          exact absurd second diagnosed.fault_ne_secondExpression
      | complete =>
          rw [readPlaced_of_complete ran ending] at rejected
          exact ⟨rfl, reader, rfl, rejected⟩

/-- All expressions of such a text are complete, and none is nested too deep. -/
theorem exists_beginsSecond
    (rejected : readPlaced text = .error fault)
    (second : fault.fault = .secondExpression) :
    (Lexemes.scan text).ending = .complete ∧
      ∃ placed, BeginsSecond (Lexemes.scan text).found placed := by
  obtain ⟨complete, reader, ran, finished⟩ := exists_finish_of_secondExpression rejected second
  obtain ⟨noList, notWaiting, several, -⟩ :=
    (reader.finish_eq_secondExpression_iff _ _).mp ⟨finished, second⟩
  refine ⟨complete, ?_⟩
  obtain ⟨before, around, spelled⟩ := Reader.spells_start.run ran
  rw [noList] at around
  rw [notWaiting, List.replicate_zero, List.append_nil, List.nil_append] at spelled
  cases around with
  | outside run =>
      obtain ⟨parts, lexemes, nodes, items⟩ := run
      rw [← lexemes] at spelled
      have fits : Node.nestingOfAll (parts.map (·.2)) ≤ nestingLimit := by
        refine Nat.le_of_not_lt fun exceeds => ?_
        obtain ⟨cause, refused⟩ :=
          ReadAs.all_refused parts (fun part member => (items part member).readAs) {} rfl _ spelled
            (Nat.zero_le _) (by dsimp only; omega)
        rw [ran] at refused
        cases refused
      have enough : 2 ≤ parts.length := by
        have length := congrArg List.length nodes
        rw [List.length_map, List.length_reverse] at length
        omega
      exact beginsSecond_of_parts spelled enough items (Node.nestingOfAll_le_iff.mp fits)

/-- A lexeme of a text without an obstacle begins before the end of the text. -/
theorem offset_lt_of_complete
    (complete : (Lexemes.scan text).ending = .complete)
    (member : placed ∈ (Lexemes.scan text).found) :
    placed.offset < text.length := by
  obtain ⟨written, -⟩ := Lexemes.spelled_of_complete complete
  have starts := (Lexemes.startsIn_scan text).found placed member
  have notEmpty : placed.lexeme.characters ≠ [] := by
    have isWritten := written placed member
    cases isLexeme : placed.lexeme with
    | atom name =>
        rw [isLexeme] at isWritten
        exact isWritten.1
    | opening | closing | marker | literal _ => exact List.cons_ne_nil _ _
  refine Nat.lt_of_not_le fun behind => ?_
  rw [List.drop_eq_nil_of_le behind, List.prefix_nil] at starts
  exact notEmpty starts

end Text

/--
A text is refused for a second expression exactly if it is two expressions or
more, none of them nested too deep.  The position is that of the first lexeme
of the second one: this is what counting parentheses finds, and it is never the
end of the text.
-/
theorem second_expression_is_located (text : List Char) :
    (∀ malformed,
      (readDocument text = .error malformed ∧ malformed.fault = .secondExpression) ↔
        (Lexemes.scan text).ending = .complete ∧
          ∃ placed,
            BeginsSecond (Lexemes.scan text).found placed ∧
              malformed = ⟨.secondExpression, Position.ofOffset text placed.offset⟩) ∧
      ((Lexemes.scan text).ending = .complete →
        ∀ placed,
          BeginsSecond (Lexemes.scan text).found placed →
            secondExpression? (Lexemes.scan text).found = some placed.offset ∧
              placed.offset < text.length) ∧
      (Lexemes.scan text).StartsIn text := by
  refine ⟨?_, ?_, Lexemes.startsIn_scan text⟩
  · intro malformed
    constructor
    · rintro ⟨rejected, second⟩
      obtain ⟨fault, rejectedPlaced, rfl⟩ := Traversal.mapError_eq_error_iff.mp rejected
      obtain ⟨complete, placed, begins⟩ := exists_beginsSecond rejectedPlaced second
      rw [readPlaced_of_beginsSecond complete begins] at rejectedPlaced
      cases rejectedPlaced
      exact ⟨complete, placed, begins, rfl⟩
    · rintro ⟨complete, placed, begins, rfl⟩
      refine ⟨?_, rfl⟩
      exact
        Traversal.mapError_eq_error_iff.mpr
          ⟨_, readPlaced_of_beginsSecond complete begins, rfl⟩
  · intro complete placed begins
    refine ⟨begins.secondExpression?_eq, ?_⟩
    obtain ⟨first, rest, node, second, later, found, -⟩ := begins
    have member : placed ∈ (Lexemes.scan text).found := by
      rw [found]
      exact List.mem_append_right _ List.mem_cons_self
    exact offset_lt_of_complete complete member

end Barrage.Document
