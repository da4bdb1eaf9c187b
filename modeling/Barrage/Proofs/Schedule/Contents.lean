import Barrage.Proofs.Schedule.Refusing

/-!
# Lists in the place of values

Where a number is expected a list is refused for being one, and nobody looks
into it.  So its items may be exchanged for any others: a document and a
variant of it have the same schedule, or the same fault at the same place.

What may be exchanged where is said level by level.  A node is a `Variant` of
another one if both are lists whose items are related, behind the same quote
markers.  Values may have any items; the items of entries, bullets, frames and
documents have variants of the level below behind an item that stays.
-/

namespace Barrage

open Barrage.Document

namespace Document.Node

/-- The node itself, or another list with related items behind the same quote markers. -/
inductive Variant (related : List Node → List Node → Prop) : Node → Node → Prop
  | same (node : Node) : Variant related node node
  | list
      {items others : List Node}
      (relates : related items others) :
      Variant related (.list items) (.list others)
  | quoted
      {inner other : Node}
      (variant : Variant related inner other) :
      Variant related (.quoted inner) (.quoted other)

/-- The first item stays, and those behind it are related. -/
inductive Behind (related : List Node → List Node → Prop) : List Node → List Node → Prop
  | first
      (item : Node)
      {rest others : List Node}
      (relates : related rest others) :
      Behind related (item :: rest) (item :: others)

namespace Variant

variable
    {related : List Node → List Node → Prop}
    {node other : Node}

/-- A question that looks through markers and not into lists has the same answer for variants. -/
theorem ask_eq
    {α : Type}
    (variant : Variant related node other)
    (ask : Node → α)
    (looksThrough : ∀ inner, ask (.quoted inner) = ask inner)
    (notInside : ∀ items others, ask (.list items) = ask (.list others)) :
    ask node = ask other := by
  induction variant with
  | same node => rfl
  | list _ => exact notInside _ _
  | quoted _ ih => rw [looksThrough, looksThrough, ih]

theorem kind_eq (variant : Variant related node other) : node.kind = other.kind :=
  variant.ask_eq kind (fun _ => rfl) fun _ _ => rfl

/-- The items of variants are related, unless they are the same or there are none. -/
theorem items?_cases (variant : Variant related node other) :
    node.items? = other.items? ∨
      ∃ items others,
        node.items? = some items ∧ other.items? = some others ∧ related items others := by
  induction variant with
  | same node => exact .inl rfl
  | list relates => exact .inr ⟨_, _, rfl, rfl, relates⟩
  | quoted _ ih => exact ih

end Variant

end Document.Node

namespace Schedule

open Barrage.Document.Node Barrage.Traversal

/-! ## Variants of each level -/

/-- A list in the place of a value may have any items. -/
def ValueVariant : Node → Node → Prop :=
  Variant fun _ _ => True

/-- Behind the key of an entry stand values. -/
def EntryVariant : Node → Node → Prop :=
  Variant (Behind (List.Forall₂ ValueVariant))

/-- Behind the tag of a bullet stand entries. -/
def BulletVariant : Node → Node → Prop :=
  Variant (Behind (List.Forall₂ EntryVariant))

/-- A number, which is a value, and bullets behind it. -/
inductive NumberedVariant : List Node → List Node → Prop
  | numbered
      {number otherNumber : Node}
      (value : ValueVariant number otherNumber)
      {bullets others : List Node}
      (rest : List.Forall₂ BulletVariant bullets others) :
      NumberedVariant (number :: bullets) (otherNumber :: others)

/-- Behind the tag of a frame stand its number and bullets. -/
def FrameVariant : Node → Node → Prop :=
  Variant (Behind NumberedVariant)

/-- Behind the tag of a document stand frames. -/
def DocumentVariant : Node → Node → Prop :=
  Variant (Behind (List.Forall₂ FrameVariant))

/-! ## Values and entries -/

section Value

variable
    {value other : Node}
    (variant : ValueVariant value other)

include variant

theorem ValueVariant.integerValue_eq (key : FieldKey) :
    integerValue key value = integerValue key other :=
  variant.ask_eq (integerValue key) (fun _ => rfl) fun _ _ => rfl

theorem ValueVariant.numberValue_eq (key : FieldKey) :
    numberValue key value = numberValue key other :=
  variant.ask_eq (numberValue key) (fun _ => rfl) fun _ _ => rfl

theorem ValueVariant.frameNumber_eq : frameNumber value = frameNumber other :=
  variant.ask_eq frameNumber (fun _ => rfl) fun _ _ => rfl

end Value

theorem readField_variant
    {values others : List Node}
    (variants : List.Forall₂ ValueVariant values others)
    (draft : BulletDraft)
    (key : FieldKey) :
    readField draft key values = readField draft key others := by
  match variants with
  | .nil => rfl
  | .cons first .nil =>
      cases key with
      | uid => rw [readField, readField, first.integerValue_eq]
      | position => rfl
      | direction | speed => rw [readField, readField, first.numberValue_eq]
  | .cons first (.cons second .nil) =>
      cases key with
      | position => rw [readField, readField, first.numberValue_eq, second.numberValue_eq]
      | uid | direction | speed => rfl
  | .cons _ (.cons _ (.cons _ rest)) =>
      have length := rest.length_eq
      cases key <;> simp [readField, length]

/-- Variants of an entry have the same key, with variants behind it, or none of them is one. -/
theorem EntryVariant.keyAndValues?_cases
    {entry other : Node}
    (variant : EntryVariant entry other) :
    keyAndValues? entry = keyAndValues? other ∨
      ∃ name values others,
        keyAndValues? entry = some (name, values) ∧
          keyAndValues? other = some (name, others) ∧ List.Forall₂ ValueVariant values others := by
  rw [keyAndValues?, keyAndValues?]
  rcases variant.items?_cases with same | ⟨_, _, list, otherList, ⟨key, variants⟩⟩
  · rw [same]
    exact .inl rfl
  · rw [list, otherList]
    dsimp only
    cases key.symbol? with
    | none => exact .inl rfl
    | some name => exact .inr ⟨name, _, _, rfl, rfl, variants⟩

theorem EntryVariant.readEntry_eq
    {entry other : Node}
    (variant : EntryVariant entry other)
    (draft : BulletDraft) :
    readEntry draft entry = readEntry draft other := by
  rw [readEntry, readEntry, variant.kind_eq]
  rcases variant.keyAndValues?_cases with same | ⟨name, values, others, found, otherFound, variants⟩
  · rw [same]
  · rw [found, otherFound]
    dsimp only
    cases FieldKey.ofName? name with
    | none => rfl
    | some key => exact readField_variant variants draft key

/-! ## Tags -/

/-- Behind a tag variants have related items, unless they have the same or none. -/
theorem itemsAfterTag_variant
    {related : List Node → List Node → Prop}
    {node other : Node}
    (variant : Variant (Behind related) node other)
    (tag : String)
    (notList : Kind → ShapeFault)
    (otherTag : ShapeFault) :
    itemsAfterTag tag notList otherTag node = itemsAfterTag tag notList otherTag other ∨
      ∃ rest others,
        itemsAfterTag tag notList otherTag node = .ok rest ∧
          itemsAfterTag tag notList otherTag other = .ok others ∧ related rest others := by
  simp only [itemsAfterTag]
  rcases variant.items?_cases with same | ⟨_, _, list, otherList, ⟨first, relates⟩⟩
  · rw [same, variant.kind_eq]
    exact .inl rfl
  · rw [list, otherList]
    cases tagged : first.isSymbol tag with
    | true => exact .inr ⟨_, _, by simp [tagged], by simp [tagged], relates⟩
    | false => exact .inl (by simp [tagged])

/-! ## Bullets, frames and documents -/

theorem BulletVariant.readBullet_eq
    {bullet other : Node}
    (variant : BulletVariant bullet other) :
    readBullet bullet = readBullet other := by
  rw [readBullet, readBullet]
  rcases itemsAfterTag_variant variant "bullet" .bulletNotList .bulletTag with
    same | ⟨entries, others, after, otherAfter, variants⟩
  · rw [same]
  · have alike :
        List.Forall₂ (fun entry other => ∀ draft, readEntry draft entry = readEntry draft other)
          entries others :=
      variants.imp fun _ _ variant => variant.readEntry_eq
    rw [after, otherAfter]
    simp only [bind, Except.bind, foldlM_congr alike]

theorem readHeader_variant
    {node other : Node}
    (variant : FrameVariant node other) :
    readHeader node = readHeader other ∨
      ∃ frame bullets others,
        readHeader node = .ok (frame, bullets) ∧
          readHeader other = .ok (frame, others) ∧ List.Forall₂ BulletVariant bullets others := by
  rw [readHeader, readHeader]
  rcases itemsAfterTag_variant variant "frame" .frameNotList .frameTag with
    same | ⟨_, _, after, otherAfter, ⟨value, variants⟩⟩
  · rw [same]
    exact .inl rfl
  · rw [after, otherAfter]
    simp only [bind, Except.bind, value.frameNumber_eq]
    cases frameNumber _ with
    | error fault => exact .inl rfl
    | ok frame => exact .inr ⟨frame, _, _, rfl, rfl, variants⟩

theorem FrameVariant.readBlock_eq
    {node other : Node}
    (variant : FrameVariant node other)
    (index : Nat) :
    readBlock index node = readBlock index other := by
  rw [readBlock, readBlock]
  rcases readHeader_variant variant with
    same | ⟨frame, bullets, others, header, otherHeader, variants⟩
  · rw [same]
  · have alike :
        List.Forall₂ (fun bullet other => readBullet bullet = readBullet other) bullets others :=
      variants.imp fun _ _ variant => variant.readBullet_eq
    rw [header, otherHeader]
    simp only [bind, Except.bind, Except.mapError]
    rw [mapM_zipIdx_congr (alike.imp fun _ _ same _ => by simp only [same]) 0]

theorem DocumentVariant.readBlocks_eq
    {document other : Node}
    (variant : DocumentVariant document other) :
    readBlocks document = readBlocks other := by
  rw [readBlocks, readBlocks]
  rcases itemsAfterTag_variant variant "ftl" .documentNotList .documentTag with
    same | ⟨entries, others, after, otherAfter, variants⟩
  · rw [same]
  · rw [after, otherAfter]
    simp only [bind, Except.bind, Except.mapError]
    rw [mapM_zipIdx_congr (variants.imp fun _ _ variant _ => by simp only [variant.readBlock_eq]) 0]

/--
What lists hold in the place of values has no effect.  A document has the same
schedule, or the same fault at the same place, if lists that stand for a frame
number or for a value of any entry, with markers in front or without, hold
anything else.
-/
theorem nested_items_have_no_effect
    (document other : Node)
    (variant : DocumentVariant document other) :
    build document = build other := by
  rw [build_eq, build_eq, variant.readBlocks_eq]

/-- Neither what a note holds nor what a list behind `uid` holds is shown in the fault. -/
theorem nested_items_have_no_effect_behind_uid :
    build
        (.list
          [.symbol "ftl",
            .list
              [.symbol "frame", .integer 0,
                .list
                  [.symbol "bullet", .list [.symbol "note", .list [.text "a"]],
                    .list [.symbol "uid", .quoted (.list [.integer 1])]]]]) =
      build
        (.list
          [.symbol "ftl",
            .list
              [.symbol "frame", .integer 0,
                .list
                  [.symbol "bullet", .list [.symbol "note", .list []],
                    .list [.symbol "uid", .quoted (.list [.symbol "b", .list []])]]]]) := by
  refine nested_items_have_no_effect _ _ (.list (.first _ (.cons ?frame .nil)))
  refine .list (.first _ (.numbered (.same _) (.cons ?bullet .nil)))
  refine .list (.first _ (.cons ?note (.cons ?uid .nil)))
  case note => exact .list (.first _ (.cons (.list trivial) .nil))
  case uid => exact .list (.first _ (.cons (.quoted (.list trivial)) .nil))

end Schedule

end Barrage
