import Barrage.Document.Node
import Barrage.Number.Written
import Barrage.Text.Characters

/-!
# What can be wrong with the layout of a document

An expression that does not describe a schedule is refused for one cause at
one place.  A place is a frame entry, or a bullet in a frame entry, counted
from zero.  What stands in place of a number is shown as it is, but a list
only as a list, so that no message grows with the document.
-/

namespace Barrage.Schedule

open Barrage.Document Barrage.Number Barrage.Text

/-! ## Keys -/

/-- The entries of a bullet that have a meaning. -/
inductive FieldKey
  | uid
  | position
  | direction
  | speed
deriving DecidableEq, Repr

namespace FieldKey

/-- The name of a key. -/
def name : FieldKey → String
  | uid => "uid"
  | position => "position"
  | direction => "direction"
  | speed => "speed"

/-- The key with a name.  Other names have no meaning here. -/
def ofName? (name : String) : Option FieldKey :=
  if name = "uid" then some uid
  else if name = "position" then some position
  else if name = "direction" then some direction
  else if name = "speed" then some speed
  else none

/-- The number of values that belong to a key. -/
def arity : FieldKey → Nat
  | position => 2
  | _ => 1

theorem ofName?_name (key : FieldKey) : ofName? key.name = some key := by
  cases key <;> decide

theorem name_of_ofName?
    {name : String}
    {key : FieldKey}
    (known : ofName? name = some key) :
    key.name = name := by
  simp only [ofName?] at known
  repeat' split at known
  all_goals cases known <;> simp_all [FieldKey.name]

end FieldKey

/-! ## What is found -/

/-- What was found in the place of a number. -/
inductive Found
  | symbol (name : String)
  | integer (value : Int)
  | real (value : Float)
  | text (content : String)
  | list
deriving DecidableEq, Repr

namespace Found

/-- What an expression is found to be.  The items of a list are left out. -/
def ofNode : Node → Found
  | .symbol name => symbol name
  | .integer value => integer value
  | .real value => real value
  | .text content => text content
  | .list _ => list
  | .quoted inner => ofNode inner

/-- The words for what was found. -/
def words : Found → String
  | symbol name => s!"symbol `{name}`"
  | integer value => s!"integer {value}"
  | real value => "float " ++ shown value
  | text content => "string " ++ Quoted.quote content
  | list => "list"

end Found

/-! ## Places and causes -/

/-- A place in the layout of a document. -/
inductive Place
  | document
  /-- An entry of the document, which should be a frame. -/
  | entry (index : Nat)
  /-- An entry of a frame, which should be a bullet. -/
  | bullet (index frame bulletIndex : Nat)
deriving DecidableEq, Repr

/-- The words for a place. -/
def Place.words : Place → String
  | document => "document"
  | entry index => s!"frame #{index}"
  | bullet index frame bulletIndex => s!"frame #{index} (frame {frame}) > bullet #{bulletIndex}"

/-- Why an expression does not describe a schedule. -/
inductive ShapeFault
  /-- The document is not a list. -/
  | documentNotList (kind : Kind)
  /-- The document does not start with its tag. -/
  | documentTag
  /-- An entry of the document is not a list. -/
  | frameNotList (kind : Kind)
  /-- An entry of the document does not start with the tag of a frame. -/
  | frameTag
  /-- The number of a frame is not a natural number. -/
  | frameNumber (found : Found)
  /-- A frame has no number. -/
  | frameNumberMissing
  /-- An entry of a frame is not a list. -/
  | bulletNotList (kind : Kind)
  /-- An entry of a frame does not start with the tag of a bullet. -/
  | bulletTag
  /-- An entry of a bullet is not a key with values. -/
  | fieldNotEntry (kind : Kind)
  /-- A key has the wrong number of values. -/
  | valueCount (key : FieldKey) (found : Nat)
  /-- A value is not an integer. -/
  | notInteger (key : FieldKey) (found : Found)
  /-- A value is not a number. -/
  | notNumber (key : FieldKey) (found : Found)
  /-- A bullet lacks some of its entries. -/
  | missingFields (keys : List FieldKey)
deriving DecidableEq, Repr

/-- The words for a fault. -/
def ShapeFault.reason : ShapeFault → String
  | documentNotList kind => s!"expected a list starting with `ftl`, found {kind.word}"
  | documentTag => "expected a list starting with `ftl`"
  | frameNotList kind => s!"expected a `frame` list, found {kind.word}"
  | frameTag => "expected a list starting with `frame`"
  | frameNumber found =>
      s!"frame number must be a non-negative integer, found {found.words}"
  | frameNumberMissing => "frame number is missing"
  | bulletNotList kind => s!"expected a `bullet` list, found {kind.word}"
  | bulletTag => "expected a list starting with `bullet`"
  | fieldNotEntry kind => s!"expected a `(key value...)` entry, found {kind.word}"
  | valueCount key found => s!"`{key.name}` takes {key.arity} value(s), found {found}"
  | notInteger key found => s!"`{key.name}` must be an integer, found {found.words}"
  | notNumber key found => s!"`{key.name}` must be a number, found {found.words}"
  | missingFields keys => "bullet is missing " ++ ", ".intercalate (keys.map FieldKey.name)

/-- A fault with its place. -/
structure Misshapen where
  place : Place
  fault : ShapeFault
deriving DecidableEq, Repr

/-- The words for a fault, with its place in front. -/
def Misshapen.message (misshapen : Misshapen) : String :=
  s!"invalid document shape at {misshapen.place.words}: {misshapen.fault.reason}"

end Barrage.Schedule
