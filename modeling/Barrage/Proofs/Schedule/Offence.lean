import Barrage.Proofs.Schedule.Refusing

/-!
# The first offence

A document that is a list under its tag, but no schedule, is refused for its
first offence: a frame with a fault in its header, a bullet that is not under
its tag, an entry of a bullet, or a bullet that lacks entries.  An `Offence` is
what of the document decides this, and nothing more: what stands before it,
which is in order, and the offending part itself.

What comes after the offence is left out, so that an offence stands in many
documents (`Offence.StandsIn`).  All of them are refused alike.
-/

namespace Barrage

open Barrage.Document

/-! ## Lists with the same front -/

/-- Two nodes of one kind that have the same first items, if they are lists. -/
def Document.Node.AgreesUpTo
    (count : Nat)
    (node other : Node) : Prop :=
  node.kind = other.kind ∧ node.items?.map (·.take count) = other.items?.map (·.take count)

namespace Document.Node.AgreesUpTo

variable
    {count : Nat}
    {node other : Node}

theorem refl
    (count : Nat)
    (node : Node) :
    node.AgreesUpTo count node :=
  ⟨rfl, rfl⟩

theorem symm (agrees : node.AgreesUpTo count other) : other.AgreesUpTo count node :=
  ⟨agrees.1.symm, agrees.2.symm⟩

end Document.Node.AgreesUpTo

namespace Schedule

open Barrage.Traversal

variable
    {node other : Node}
    {fault : ShapeFault}

/-- What is wrong with a bullet first, and what stands before it. -/
inductive BulletOffence
  /-- The bullet is not under its tag. -/
  | tag (bullet : Node)
  /-- One of the entries is not in order. -/
  | entry (before : List Node) (offending : Node)
  /-- The entries are in order, but there are too few. -/
  | missing (entries : List Node)

namespace BulletOffence

/-- The offence stands in a bullet, whatever comes after it there. -/
def StandsIn : BulletOffence → Node → Prop
  | tag bullet, node => node.AgreesUpTo 1 bullet
  | entry before offending, node =>
      ∃ after, node.IsTagged "bullet" (before ++ offending :: after)
  | missing entries, node => node.IsTagged "bullet" entries

/-- The offence is the first one, and it is reported as this fault. -/
inductive Reports : BulletOffence → ShapeFault → Prop
  | tag
      {bullet : Node}
      {fault : ShapeFault}
      (faulty : TagFault "bullet" .bulletNotList .bulletTag bullet fault) :
      Reports (.tag bullet) fault
  | entry
      {before : List Node}
      {offending : Node}
      {fault : ShapeFault}
      (inOrder : ∀ earlier ∈ before, IsEntry earlier)
      (faulty : EntryFault offending fault) :
      Reports (.entry before offending) fault
  | missing
      {entries : List Node}
      {keys : List FieldKey}
      (inOrder : ∀ entry ∈ entries, IsEntry entry)
      (absent : AreMissing entries keys)
      (some : keys ≠ []) :
      Reports (.missing entries) (.missingFields keys)

end BulletOffence

/-- What is wrong with a frame first, and what stands before it. -/
inductive FrameOffence
  /-- The tag or the number is not in order. -/
  | header (frame : Node)
  /-- One of the bullets is not in order. -/
  | bullet (number : Node) (before : List Node) (offence : BulletOffence)

namespace FrameOffence

/-- The offence stands in a frame, whatever comes after it there. -/
def StandsIn : FrameOffence → Node → Prop
  | header frame, node => node.AgreesUpTo 2 frame
  | bullet number before offence, node =>
      ∃ offending after,
        node.IsTagged "frame" (number :: (before ++ offending :: after)) ∧
          offence.StandsIn offending

/-- The offence is the first one, and it is reported so in the frame with this index. -/
inductive Reports (index : Nat) : FrameOffence → Misshapen → Prop
  | header
      {frame : Node}
      {fault : ShapeFault}
      (faulty : HeaderFault frame fault) :
      Reports index (.header frame) ⟨.entry index, fault⟩
  | bullet
      {number : Node}
      {frame : Nat}
      (numbered : number.unquoted = .integer frame)
      {before : List Node}
      (inOrder : ∀ earlier ∈ before, ∃ event, IsBullet earlier event)
      {offence : BulletOffence}
      {fault : ShapeFault}
      (reports : offence.Reports fault) :
      Reports index (.bullet number before offence) ⟨.bullet index frame before.length, fault⟩

end FrameOffence

/-- What is wrong with the frames of a document first, and what stands before it. -/
structure Offence where
  before : List Node
  frame : FrameOffence

namespace Offence

/-- The offence stands in a document, whatever comes after it there. -/
def StandsIn
    (offence : Offence)
    (document : Node) : Prop :=
  ∃ offending after,
    document.IsTagged "ftl" (offence.before ++ offending :: after) ∧
      offence.frame.StandsIn offending

/-- The offence is the first one, and it is reported so. -/
structure Reports
    (offence : Offence)
    (misshapen : Misshapen) : Prop where
  inOrder : ∀ earlier ∈ offence.before, ∃ block, IsFrame earlier block
  reports : offence.frame.Reports offence.before.length misshapen

end Offence

end Schedule

end Barrage
