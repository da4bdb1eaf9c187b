import Barrage.Proofs.Number.Whole
import Barrage.Schedule.Layout
import Mathlib.Data.List.Forall2

/-!
# Documents that describe a schedule

When a tree is a bullet, a frame or a whole document, said without reading it
from one end to the other.  Every node is looked at through its quote markers.

A bullet is a list of entries under its tag.  An entry is a list with a symbol
in front; if the symbol is the name of a key, the rest must be the values of
this key.  Each key has an entry, and the last one counts: `LastValues` says
which values these are, whatever stands before them and between them.

`FieldKey.Value` is the type of what a key stands for.  So the four keys are
treated alike, in bullets that are still being read as well as in events.
-/

namespace Barrage

open Barrage.Document Barrage.Number

namespace Document.Node

/-- A list with this symbol in front of these items. -/
def IsTagged
    (node : Node)
    (tag : String)
    (rest : List Node) : Prop :=
  ∃ first, node.unquoted = .list (first :: rest) ∧ first.unquoted = .symbol tag

theorem unquoted_ne_quoted
    (node inner : Node) :
    node.unquoted ≠ .quoted inner := by
  induction node using unquoted.induct with
  | case1 within ih => simpa using ih
  | case2 node notQuoted =>
      intro equal
      rw [unquoted] at equal
      · exact notQuoted inner equal
      · exact notQuoted

theorem items?_eq_some_iff
    {node : Node}
    {items : List Node} :
    node.items? = some items ↔ node.unquoted = .list items := by
  rw [← items?_unquoted]
  cases bare : node.unquoted with
  | quoted inner => exact absurd bare (unquoted_ne_quoted node inner)
  | _ => simp [items?]

theorem symbol?_eq_some_iff
    {node : Node}
    {name : String} :
    node.symbol? = some name ↔ node.unquoted = .symbol name := by
  rw [← symbol?_unquoted]
  cases bare : node.unquoted with
  | quoted inner => exact absurd bare (unquoted_ne_quoted node inner)
  | _ => simp [symbol?]

theorem isTagged_iff_items?
    {node : Node}
    {tag : String}
    {rest : List Node} :
    node.IsTagged tag rest ↔
      ∃ first, node.items? = some (first :: rest) ∧ first.symbol? = some tag := by
  simp only [IsTagged, items?_eq_some_iff, symbol?_eq_some_iff]

/-- A list has one tag and one run of items after it. -/
theorem IsTagged.unique
    {node : Node}
    {tag otherTag : String}
    {rest otherRest : List Node}
    (tagged : node.IsTagged tag rest)
    (otherTagged : node.IsTagged otherTag otherRest) :
    tag = otherTag ∧ rest = otherRest := by
  obtain ⟨first, list, symbol⟩ := tagged
  obtain ⟨otherFirst, otherList, otherSymbol⟩ := otherTagged
  rw [list, Node.list.injEq, List.cons.injEq] at otherList
  obtain ⟨rfl, rfl⟩ := otherList
  rw [symbol, Node.symbol.injEq] at otherSymbol
  exact ⟨otherSymbol, rfl⟩

/-- The value is an integer, or a real number that is whole. -/
def IsInteger
    (value : Node)
    (whole : Int) : Prop :=
  value.unquoted = .integer whole ∨
    ∃ number, value.unquoted = .real number ∧ IsWhole number whole

/-- The value is this real number, or an integer for which it stands. -/
def IsNumber
    (value : Node)
    (number : Float) : Prop :=
  value.unquoted = .real number ∨
    ∃ whole, value.unquoted = .integer whole ∧ number = Float.ofInt whole

theorem IsInteger.unique
    {value : Node}
    {whole otherWhole : Int}
    (read : value.IsInteger whole)
    (otherRead : value.IsInteger otherWhole) :
    whole = otherWhole := by
  rcases read with read | ⟨number, read, isWhole⟩
  · rcases otherRead with otherRead | ⟨otherNumber, otherRead, -⟩
    · simpa using read.symm.trans otherRead
    · simpa using read.symm.trans otherRead
  · rcases otherRead with otherRead | ⟨otherNumber, otherRead, otherIsWhole⟩
    · simpa using read.symm.trans otherRead
    · obtain rfl : number = otherNumber := by simpa using read.symm.trans otherRead
      rw [← wholeNumber?_eq_some_iff] at isWhole otherIsWhole
      exact Option.some.inj (isWhole.symm.trans otherIsWhole)

theorem IsNumber.unique
    {value : Node}
    {number otherNumber : Float}
    (read : value.IsNumber number)
    (otherRead : value.IsNumber otherNumber) :
    number = otherNumber := by
  rcases read with read | ⟨whole, read, rfl⟩
  · rcases otherRead with otherRead | ⟨otherWhole, otherRead, -⟩
    · simpa using read.symm.trans otherRead
    · simpa using read.symm.trans otherRead
  · rcases otherRead with otherRead | ⟨otherWhole, otherRead, rfl⟩
    · simpa using read.symm.trans otherRead
    · obtain rfl : whole = otherWhole := by simpa using read.symm.trans otherRead
      rfl

end Document.Node

namespace Schedule

/-! ## Bullets -/

/-- What a key stands for. -/
def FieldKey.Value : FieldKey → Type
  | uid => Int
  | position => Float × Float
  | direction => Float
  | speed => Float

/-- These nodes are the values of a key, as many as it takes and of its kind. -/
def FieldKey.Reads : (key : FieldKey) → List Node → key.Value → Prop
  | uid, [value], whole => value.IsInteger whole
  | position, [first, second], point => first.IsNumber point.1 ∧ second.IsNumber point.2
  | direction, [value], number => value.IsNumber number
  | speed, [value], number => value.IsNumber number
  | _, _, _ => False

theorem FieldKey.reads_unique
    {key : FieldKey}
    {values : List Node}
    {value otherValue : key.Value}
    (reads : key.Reads values value)
    (otherReads : key.Reads values otherValue) :
    value = otherValue := by
  rw [FieldKey.Reads.eq_def] at reads otherReads
  split at reads
  · exact reads.unique otherReads
  · exact Prod.ext (reads.1.unique otherReads.1) (reads.2.unique otherReads.2)
  · exact reads.unique otherReads
  · exact reads.unique otherReads
  · exact reads.elim

/-- What an event holds under a key. -/
def FieldKey.inEvent : (key : FieldKey) → BulletEvent → key.Value
  | uid, event => event.uid
  | position, event => (event.x, event.y)
  | direction, event => event.direction
  | speed, event => event.speed

/-- An entry of a bullet: under the name of a key stand its values, under other names anything. -/
def IsEntry (entry : Node) : Prop :=
  ∃ name values,
    entry.IsTagged name values ∧
      ∀ key : FieldKey, key.name = name → ∃ value, key.Reads values value

/-- The values in the last of the entries under a key. -/
def LastValues
    (entries : List Node)
    (key : FieldKey)
    (values : List Node) : Prop :=
  ∃ before entry after,
    entries = before ++ entry :: after ∧
      entry.IsTagged key.name values ∧
        ∀ later ∈ after, ∀ others, ¬ later.IsTagged key.name others

/-- A bullet, and the event that it stands for. -/
def IsBullet
    (node : Node)
    (event : BulletEvent) : Prop :=
  ∃ entries,
    node.IsTagged "bullet" entries ∧
      (∀ entry ∈ entries, IsEntry entry) ∧
        ∀ key, ∃ values, LastValues entries key values ∧ key.Reads values (key.inEvent event)

/-! ## Frames and documents -/

/-- A frame: its tag, an integer that is not negative, and bullets. -/
def IsFrame
    (node : Node)
    (block : Block) : Prop :=
  ∃ number bullets,
    node.IsTagged "frame" (number :: bullets) ∧
      number.unquoted = .integer block.frame ∧
        List.Forall₂ IsBullet bullets block.events

/-- A document: its tag and frames. -/
def IsDocument
    (node : Node)
    (blocks : List Block) : Prop :=
  ∃ entries,
    node.IsTagged "ftl" entries ∧ List.Forall₂ IsFrame entries blocks

/-! ## Last values -/

theorem not_lastValues_nil
    (key : FieldKey)
    (values : List Node) :
    ¬ LastValues [] key values := by
  rintro ⟨before, entry, after, split, -⟩
  simp at split

/-- The entry at the end counts if it is under the key, and else the entries before it. -/
theorem lastValues_snoc_iff
    {entries : List Node}
    {entry : Node}
    {key : FieldKey}
    {values : List Node} :
    LastValues (entries ++ [entry]) key values ↔
      entry.IsTagged key.name values ∨
        (∀ others, ¬ entry.IsTagged key.name others) ∧ LastValues entries key values := by
  constructor
  · rintro ⟨before, found, after, split, tagged, later⟩
    rcases List.eq_nil_or_concat after with rfl | ⟨front, last, rfl⟩
    · obtain ⟨-, same⟩ := List.append_inj' split rfl
      obtain rfl := List.singleton_inj.mp same
      exact .inl tagged
    · rw [List.concat_eq_append] at split later
      rw [← List.cons_append, ← List.append_assoc] at split
      obtain ⟨rfl, same⟩ := List.append_inj' split rfl
      obtain rfl := List.singleton_inj.mp same
      refine .inr ⟨later entry (by simp), before, found, front, rfl, tagged, ?_⟩
      intro between member
      exact later between (List.mem_append_left _ member)
  · rintro (tagged | ⟨notTagged, before, found, after, rfl, tagged, later⟩)
    · exact ⟨entries, entry, [], rfl, tagged, by simp⟩
    · refine ⟨before, found, after ++ [entry], by simp, tagged, ?_⟩
      intro between member
      rcases List.mem_append.mp member with inside | last
      · exact later between inside
      · rw [List.mem_singleton.mp last]
        exact notTagged

end Schedule

end Barrage
