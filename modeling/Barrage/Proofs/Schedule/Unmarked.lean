import Barrage.Proofs.Document.Unmarked
import Barrage.Proofs.Schedule.Attempting

/-!
# Schedules without quote markers

Quote markers mean nothing in the layout of a document, wherever they stand.
Each reading function makes of a tree without its markers what it makes of the
tree itself, the fault included if there is one.  Where a function hands on
parts of the tree, they are handed on without their markers.

Most questions about a node look through the markers in front of it and do not
look into lists.  `Document.Node.ask_unmarked` answers all of these at once.
-/

namespace Barrage

open Barrage.Document Barrage.Number

/-! ## Single nodes -/

namespace Document.Node

/-- A marker, a list, or an expression that markers cannot be in. -/
theorem unmarked_induction
    {motive : Node → Prop}
    (quoted : ∀ inner, motive inner → motive (.quoted inner))
    (list : ∀ items, motive (.list items))
    (leaf : ∀ node, node.unmarked = node → node.items? = none → motive node)
    (node : Node) :
    motive node := by
  induction node using unquoted.induct with
  | case1 inner ih => exact quoted inner ih
  | case2 node notQuoted =>
      cases node with
      | list items => exact list items
      | quoted inner => exact absurd rfl (notQuoted inner)
      | _ => exact leaf _ rfl rfl

/-- A question that looks through markers and not into lists has the same answer without them. -/
theorem ask_unmarked
    {α : Type}
    (ask : Node → α)
    (looksThrough : ∀ inner, ask (.quoted inner) = ask inner)
    (notInside : ∀ items, ask (.list (items.map unmarked)) = ask (.list items))
    (node : Node) :
    ask node.unmarked = ask node := by
  induction node using unmarked_induction with
  | quoted inner ih =>
      rw [looksThrough]
      exact ih
  | list items =>
      rw [unmarked_list]
      exact notInside items
  | leaf node same _ => rw [same]

theorem kind_unmarked (node : Node) : node.unmarked.kind = node.kind :=
  ask_unmarked kind (fun _ => rfl) (fun _ => rfl) node

theorem symbol?_unmarked (node : Node) : node.unmarked.symbol? = node.symbol? :=
  ask_unmarked symbol? (fun _ => rfl) (fun _ => rfl) node

theorem isSymbol_unmarked
    (node : Node)
    (name : String) :
    node.unmarked.isSymbol name = node.isSymbol name := by
  rw [isSymbol, symbol?_unmarked, isSymbol]

/-- The items of a list lose their markers as well. -/
theorem items?_unmarked (node : Node) :
    node.unmarked.items? = node.items?.map (·.map unmarked) := by
  induction node using unmarked_induction with
  | quoted inner ih => exact ih
  | list items =>
      rw [unmarked_list]
      rfl
  | leaf node same noItems =>
      rw [same, noItems]
      rfl

end Document.Node

namespace Schedule

theorem integerValue_unmarked
    (key : FieldKey)
    (node : Node) :
    integerValue key node.unmarked = integerValue key node :=
  Node.ask_unmarked (integerValue key) (fun _ => rfl) (fun _ => rfl) node

theorem numberValue_unmarked
    (key : FieldKey)
    (node : Node) :
    numberValue key node.unmarked = numberValue key node :=
  Node.ask_unmarked (numberValue key) (fun _ => rfl) (fun _ => rfl) node

theorem frameNumber_unmarked (node : Node) :
    frameNumber node.unmarked = frameNumber node :=
  Node.ask_unmarked frameNumber (fun _ => rfl) (fun _ => rfl) node

/-! ## Bullets -/

theorem keyAndValues?_unmarked (entry : Node) :
    keyAndValues? entry.unmarked =
      (keyAndValues? entry).map fun (name, values) => (name, values.map Node.unmarked) := by
  rw [keyAndValues?, keyAndValues?, Node.items?_unmarked]
  match entry.items? with
  | none => rfl
  | some [] => rfl
  | some (key :: values) =>
      simp only [Option.map_some, List.map_cons, Node.symbol?_unmarked, Option.map_map]
      rfl

theorem readField_unmarked
    (draft : BulletDraft)
    (key : FieldKey)
    (values : List Node) :
    readField draft key (values.map Node.unmarked) = readField draft key values := by
  match values with
  | [] => cases key <;> rfl
  | [value] => cases key <;> simp [readField, integerValue_unmarked, numberValue_unmarked]
  | [first, second] => cases key <;> simp [readField, numberValue_unmarked]
  | _ :: _ :: _ :: rest => cases key <;> simp [readField]

theorem readEntry_unmarked
    (draft : BulletDraft)
    (entry : Node) :
    readEntry draft entry.unmarked = readEntry draft entry := by
  rw [readEntry, readEntry, keyAndValues?_unmarked, Node.kind_unmarked]
  cases keyAndValues? entry with
  | none => rfl
  | some found =>
      simp only [Option.map_some]
      cases FieldKey.ofName? found.1 with
      | none => rfl
      | some key => exact readField_unmarked draft key found.2

theorem itemsAfterTag_unmarked
    (tag : String)
    (notList : Kind → ShapeFault)
    (otherTag : ShapeFault)
    (node : Node) :
    itemsAfterTag tag notList otherTag node.unmarked =
      (itemsAfterTag tag notList otherTag node).map (·.map Node.unmarked) := by
  rw [itemsAfterTag, itemsAfterTag, Node.items?_unmarked, Node.kind_unmarked]
  match node.items? with
  | none => rfl
  | some [] => rfl
  | some (first :: rest) =>
      simp only [Option.map_some, List.map_cons, Node.isSymbol_unmarked]
      split <;> rfl

theorem readBullet_unmarked (node : Node) : readBullet node.unmarked = readBullet node := by
  rw [readBullet, readBullet, itemsAfterTag_unmarked]
  cases itemsAfterTag "bullet" .bulletNotList .bulletTag node with
  | error fault => rfl
  | ok entries =>
      simp only [Except.map, bind, Except.bind, List.foldlM_map, readEntry_unmarked]

/-! ## Frames and documents -/

theorem readHeader_unmarked (node : Node) :
    readHeader node.unmarked =
      (readHeader node).map fun (frame, bullets) => (frame, bullets.map Node.unmarked) := by
  rw [readHeader, readHeader, itemsAfterTag_unmarked]
  match itemsAfterTag "frame" .frameNotList .frameTag node with
  | .error fault => rfl
  | .ok [] => rfl
  | .ok (number :: bullets) =>
      simp only [Except.map, bind, Except.bind, List.map_cons, frameNumber_unmarked]
      cases frameNumber number <;> rfl

theorem readBlock_unmarked
    (index : Nat)
    (node : Node) :
    readBlock index node.unmarked = readBlock index node := by
  rw [readBlock, readBlock, readHeader_unmarked]
  cases readHeader node with
  | error fault => rfl
  | ok header =>
      simp only [Except.map, Except.mapError, bind, Except.bind, List.zipIdx_map, List.mapM_map,
        Function.comp_def, Prod.map, readBullet_unmarked]
      rfl

theorem readBlocks_unmarked (document : Node) :
    readBlocks document.unmarked = readBlocks document := by
  rw [readBlocks, readBlocks, itemsAfterTag_unmarked]
  cases itemsAfterTag "ftl" .documentNotList .documentTag document with
  | error fault => rfl
  | ok entries =>
      simp only [Except.map, Except.mapError, bind, Except.bind, List.zipIdx_map, List.mapM_map,
        Function.comp_def, Prod.map, readBlock_unmarked]
      rfl

theorem build_unmarked (document : Node) : build document.unmarked = build document := by
  rw [build_eq, readBlocks_unmarked, build_eq]

/-! ## Texts -/

/--
Quote markers have no effect.  A tree without its markers has the same
schedule, or the same fault at the same place.  So have two texts whose
lexemes differ in nothing but markers, if both of them are documents.
-/
theorem markers_have_no_effect :
    (∀ document : Node, build document = build document.unmarked) ∧
      ∀ (first second : List Char) (document other : Node),
        readDocument first = .ok document →
          readDocument second = .ok other →
            ((Lexemes.scan first).found.map (·.lexeme)).filter (· ≠ .marker) =
                ((Lexemes.scan second).found.map (·.lexeme)).filter (· ≠ .marker) →
              load first = load second := by
  constructor
  · intro document
    exact (build_unmarked document).symm
  · intro first second document other read readOther sameLexemes
    have sameTree := unmarked_eq_of_readDocument read readOther sameLexemes
    rw [load, load, loadNoting_of_readDocument read, loadNoting_of_readDocument readOther,
      ← build_unmarked document, sameTree, build_unmarked other]

end Schedule

end Barrage
