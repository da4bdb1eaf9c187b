import Barrage.Proofs.Document.Reading
import Mathlib.Order.MinMax

/-!
# Documents without quote markers

Markers can be taken out of the lexemes of a document or out of its tree.
Both come to the same: what is left of the lexemes derives what is left of the
tree (`Derives.unmarked`), and it derives nothing else (`Derives.unique`).  So
two texts that differ in markers alone have trees that differ in markers alone.
-/

namespace Barrage.Document

namespace Node

/-! ## Trees -/

mutual

/-- An expression without quote markers, neither in front of it nor anywhere inside. -/
def unmarked : Node → Node
  | symbol name => symbol name
  | integer value => integer value
  | real value => real value
  | text content => text content
  | list items => list (unmarkedAll items)
  | quoted inner => inner.unmarked

/-- Some expressions without their quote markers. -/
def unmarkedAll : List Node → List Node
  | [] => []
  | node :: rest => node.unmarked :: unmarkedAll rest

end

theorem unmarkedAll_eq_map (items : List Node) : unmarkedAll items = items.map unmarked := by
  induction items with
  | nil => rfl
  | cons item rest ih => rw [unmarkedAll, ih, List.map_cons]

@[simp]
theorem unmarked_list (items : List Node) :
    (list items).unmarked = list (items.map unmarked) := by
  rw [unmarked, unmarkedAll_eq_map]

@[simp]
theorem unmarked_ofAtom (name : List Char) : (ofAtom name).unmarked = ofAtom name := by
  rw [ofAtom]
  repeat' split
  all_goals rfl

mutual

/-- Without markers a tree is nested no deeper. -/
theorem nesting_unmarked_le : (node : Node) → node.unmarked.nesting ≤ node.nesting
  | symbol _ | integer _ | real _ | text _ => Nat.le_refl 0
  | list items => Nat.succ_le_succ (nestingOfAll_unmarkedAll_le items)
  | quoted inner => Nat.le_succ_of_le (nesting_unmarked_le inner)

theorem nestingOfAll_unmarkedAll_le :
    (items : List Node) → nestingOfAll (unmarkedAll items) ≤ nestingOfAll items
  | [] => Nat.le_refl 0
  | node :: rest =>
      max_le_max (nesting_unmarked_le node) (nestingOfAll_unmarkedAll_le rest)

end

end Node

/-! ## Lexemes -/

/-- Lexemes without the quote markers among them. -/
def Lexeme.unmarked (lexemes : List Lexeme) : List Lexeme :=
  lexemes.filter (· ≠ .marker)

/-- Without its markers, a derivation is one of the tree without them. -/
theorem Derives.unmarked
    {lexemes : List Lexeme}
    {node : Node}
    (derives : Derives lexemes node) :
    Derives (Lexeme.unmarked lexemes) node.unmarked := by
  induction derives with
  | atom name =>
      rw [Node.unmarked_ofAtom]
      exact .atom name
  | literal body => exact .literal body
  | list parts _ ih =>
      have rest :=
        Derives.list (parts.map fun part => (Lexeme.unmarked part.1, part.2.unmarked)) (by
          intro part member
          obtain ⟨original, inside, rfl⟩ := List.mem_map.mp member
          exact ih original inside)
      rw [List.flatMap_map, List.map_map] at rest
      rw [Node.unmarked_list, List.map_map]
      simpa [Lexeme.unmarked, List.filter_flatMap, Function.comp_def] using rest
  | quoted _ ih => exact ih

/-- Lexemes derive at most one tree that is within the limit of nesting. -/
theorem Derives.unique
    {lexemes : List Lexeme}
    {node other : Node}
    (derives : Derives lexemes node)
    (derivesOther : Derives lexemes other)
    (fits : node.nesting ≤ nestingLimit)
    (otherFits : other.nesting ≤ nestingLimit) :
    node = other := by
  have spelled : (lexemes.map fun lexeme => PlacedLexeme.mk lexeme 0).map (·.lexeme) = lexemes := by
    rw [List.map_map]
    exact List.map_id lexemes
  obtain ⟨marker, run⟩ := derives.readAs.accepted {} _ spelled (by dsimp only; omega)
  obtain ⟨otherMarker, otherRun⟩ :=
    derivesOther.readAs.accepted {} _ spelled (by dsimp only; omega)
  have same := congrArg Reader.newestFirst (Except.ok.inj (run.symm.trans otherRun))
  exact (List.cons.inj same).1

/-! ## Texts -/

/-- Texts with the same lexemes but for markers have the same tree but for markers. -/
theorem unmarked_eq_of_readDocument
    {first second : List Char}
    {node other : Node}
    (read : readDocument first = .ok node)
    (readOther : readDocument second = .ok other)
    (sameLexemes :
      Lexeme.unmarked ((Lexemes.scan first).found.map (·.lexeme)) =
        Lexeme.unmarked ((Lexemes.scan second).found.map (·.lexeme))) :
    node.unmarked = other.unmarked := by
  obtain ⟨-, derives, fits⟩ :=
    derives_of_readPlaced (readDocument_eq_ok_iff_readPlaced.mp read)
  obtain ⟨-, derivesOther, otherFits⟩ :=
    derives_of_readPlaced (readDocument_eq_ok_iff_readPlaced.mp readOther)
  have bare := derives.unmarked
  rw [sameLexemes] at bare
  exact
    bare.unique derivesOther.unmarked (Nat.le_trans node.nesting_unmarked_le fits)
      (Nat.le_trans other.nesting_unmarked_le otherFits)

end Barrage.Document
