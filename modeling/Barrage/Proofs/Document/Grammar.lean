import Barrage.Document.Reader

/-!
# The grammar of documents

An expression is an atom, a text literal, a run of expressions between
parentheses, or a quote marker with an expression after it.  `Derives` relates
the lexemes of an expression to the tree that they denote, and `DerivesAll`
does so for a run of expressions.  Both speak of lexemes alone: offsets, open
lists and pending markers belong to the reader and have no place here.

`Node.nesting` is the height of a tree, where only lists and quote markers
count.
-/

namespace Barrage.Document

/-! ## Derivations -/

/-- These lexemes are one expression, and this tree is what they denote. -/
inductive Derives : List Lexeme → Node → Prop
  | atom (name : List Char) :
      Derives [.atom name] (.ofAtom name)
  | literal (body : List Char) :
      Derives [.literal body] (.ofLiteral body)
  /-- A list between parentheses, given by the lexemes and the tree of each item. -/
  | list
      (parts : List (List Lexeme × Node))
      (items : ∀ part ∈ parts, Derives part.1 part.2) :
      Derives
        (.opening :: (parts.flatMap (·.1) ++ [.closing]))
        (.list (parts.map (·.2)))
  | quoted
      {lexemes : List Lexeme}
      {inner : Node}
      (expression : Derives lexemes inner) :
      Derives (.marker :: lexemes) (.quoted inner)

/-- These lexemes are a run of expressions, which denote these trees in order. -/
def DerivesAll
    (lexemes : List Lexeme)
    (nodes : List Node) : Prop :=
  ∃ parts : List (List Lexeme × Node),
    parts.flatMap (·.1) = lexemes ∧
      parts.map (·.2) = nodes ∧
      ∀ part ∈ parts, Derives part.1 part.2

namespace DerivesAll

theorem nil : DerivesAll [] [] :=
  ⟨[], rfl, rfl, by simp⟩

/-- A run goes on with one more expression. -/
theorem snoc
    {lexemes last : List Lexeme}
    {nodes : List Node}
    {node : Node}
    (run : DerivesAll lexemes nodes)
    (expression : Derives last node) :
    DerivesAll (lexemes ++ last) (nodes ++ [node]) := by
  obtain ⟨parts, rfl, rfl, items⟩ := run
  refine ⟨parts ++ [(last, node)], by simp, by simp, ?_⟩
  intro part member
  rcases List.mem_append.mp member with earlier | latest
  · exact items part earlier
  · rw [List.mem_singleton.mp latest]
    exact expression

/-- A run between parentheses is a list. -/
theorem derives_list
    {lexemes : List Lexeme}
    {nodes : List Node}
    (run : DerivesAll lexemes nodes) :
    Derives (.opening :: (lexemes ++ [.closing])) (.list nodes) := by
  obtain ⟨parts, rfl, rfl, items⟩ := run
  exact .list parts items

/-- A run that denotes a single tree is one expression. -/
theorem derives_of_singleton
    {lexemes : List Lexeme}
    {node : Node}
    (run : DerivesAll lexemes [node]) :
    Derives lexemes node := by
  obtain ⟨parts, rfl, nodes, items⟩ := run
  obtain ⟨part, rfl, rfl⟩ := List.map_eq_singleton_iff.mp nodes
  simpa using items part (by simp)

end DerivesAll

/-- Markers in front of an expression quote it as many times. -/
theorem Derives.quotedTimes
    {lexemes : List Lexeme}
    {node : Node}
    (expression : Derives lexemes node)
    (count : Nat) :
    Derives (List.replicate count .marker ++ lexemes) (node.quotedTimes count) := by
  induction count with
  | zero => simpa [Node.quotedTimes] using expression
  | succ count ih =>
      rw [List.replicate_succ, List.cons_append, Node.quotedTimes]
      exact .quoted ih

/-! ## Nesting -/

namespace Node

mutual

/-- The greatest number of lists and quote markers on a path from the root of a tree. -/
def nesting : Node → Nat
  | list items => nestingOfAll items + 1
  | quoted inner => inner.nesting + 1
  | _ => 0

/-- The greatest nesting among some trees. -/
def nestingOfAll : List Node → Nat
  | [] => 0
  | node :: rest => max node.nesting (nestingOfAll rest)

end

theorem nestingOfAll_le_iff
    {nodes : List Node}
    {bound : Nat} :
    nestingOfAll nodes ≤ bound ↔ ∀ node ∈ nodes, node.nesting ≤ bound := by
  induction nodes with
  | nil => simp [nestingOfAll]
  | cons node rest ih => rw [nestingOfAll, Nat.max_le, ih, List.forall_mem_cons]

@[simp]
theorem nesting_ofAtom (name : List Char) : (ofAtom name).nesting = 0 := by
  rw [ofAtom]
  repeat' split
  all_goals rfl

@[simp]
theorem nesting_ofLiteral (body : List Char) : (ofLiteral body).nesting = 0 := rfl

/-- A marker may be taken as the innermost or as the outermost one. -/
theorem quotedTimes_quoted
    (count : Nat)
    (inner : Node) :
    (quoted inner).quotedTimes count = inner.quotedTimes (count + 1) := by
  induction count with
  | zero => rfl
  | succ count ih =>
      rw [quotedTimes, ih]
      rfl

end Node

end Barrage.Document
