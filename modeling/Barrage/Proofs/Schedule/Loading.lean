import Barrage.Proofs.Document.Accounting
import Barrage.Proofs.Schedule.Refusing

/-!
# Loading with every operation checked

The layout is read once more, with each operation checked that is not meant for
all it could be applied to: the items of a list from an index on, the values of
an entry by their indices, and the cases that are left out, a quoted expression
without its markers and an entry with an unknown key after such entries have
been passed by.

The checked loader does not break off (`loadChecked_eq`).  A list has as many
items as the checks before have seen (`itemsAfterTagChecked_eq`,
`readHeaderChecked_eq`), an entry as many values as its key takes
(`readFieldChecked_eq`), and nothing is quoted once its markers are off.
-/

namespace Barrage.Schedule

open Barrage.Document Barrage.Number Barrage.Text

/-! ## What an expression is -/

/-- What an expression is.  A quoted expression is left out: the markers are taken off. -/
def kind? (node : Node) : Option Kind :=
  match node.unquoted with
  | .symbol _ => some .symbol
  | .integer _ => some .integer
  | .real _ => some .real
  | .text _ => some .text
  | .list _ => some .list
  | .quoted _ => none

theorem kind?_eq (node : Node) : kind? node = some node.kind := by
  rw [kind?, ← Node.kind_unquoted]
  cases bare : node.unquoted with
  | quoted inner => exact absurd bare (Node.unquoted_ne_quoted node inner)
  | symbol _ | integer _ | real _ | text _ | list _ => rfl

/-- What an expression is found to be.  Here a list is asked for its kind. -/
def found? (node : Node) : Option Found :=
  match node.unquoted with
  | .symbol name => some (.symbol name)
  | .integer value => some (.integer value)
  | .real value => some (.real value)
  | .text content => some (.text content)
  | other => (kind? other).map fun _ => .list

theorem found?_eq (node : Node) : found? node = some (Found.ofNode node) := by
  rw [found?, ← Found.ofNode_unquoted]
  cases bare : node.unquoted with
  | quoted inner => exact absurd bare (Node.unquoted_ne_quoted node inner)
  | symbol _ | integer _ | real _ | text _ | list _ => rfl

/-! ## Values -/

def integerValueChecked
    (key : FieldKey)
    (value : Node) : Checked ShapeFault Int :=
  match value.unquoted with
  | .integer whole => return whole
  | .real number =>
      match wholeNumber? number with
      | some whole => return whole
      | none => throw (.notInteger key (.real number))
  | other => do throw (.notInteger key (← Checked.get (found? other)))

def numberValueChecked
    (key : FieldKey)
    (value : Node) : Checked ShapeFault Float :=
  match value.unquoted with
  | .integer whole => return Float.ofInt whole
  | .real number => return number
  | other => do throw (.notNumber key (← Checked.get (found? other)))

def frameNumberChecked (node : Node) : Checked ShapeFault Nat :=
  match node.unquoted with
  | .integer value =>
      if 0 ≤ value then return value.toNat else throw (.frameNumber (.integer value))
  | other => do throw (.frameNumber (← Checked.get (found? other)))

theorem integerValueChecked_eq
    (key : FieldKey)
    (value : Node) :
    integerValueChecked key value = Checked.sound (integerValue key value) := by
  simp only [integerValueChecked, found?_eq]
  rw [← integerValue_unquoted]
  cases bare : value.unquoted with
  | quoted inner => exact absurd bare (Node.unquoted_ne_quoted value inner)
  | real number =>
      dsimp only [integerValue]
      cases wholeNumber? number <;> rfl
  | symbol _ | integer _ | text _ | list _ => rfl

theorem numberValueChecked_eq
    (key : FieldKey)
    (value : Node) :
    numberValueChecked key value = Checked.sound (numberValue key value) := by
  simp only [numberValueChecked, found?_eq]
  rw [← numberValue_unquoted]
  cases bare : value.unquoted with
  | quoted inner => exact absurd bare (Node.unquoted_ne_quoted value inner)
  | symbol _ | integer _ | real _ | text _ | list _ => rfl

theorem frameNumberChecked_eq (node : Node) :
    frameNumberChecked node = Checked.sound (frameNumber node) := by
  simp only [frameNumberChecked, found?_eq]
  rw [← frameNumber_unquoted]
  cases bare : node.unquoted with
  | quoted inner => exact absurd bare (Node.unquoted_ne_quoted node inner)
  | integer value =>
      dsimp only [frameNumber]
      split <;> rfl
  | symbol _ | real _ | text _ | list _ => rfl

/-! ## Bullets -/

/-- Read the values of a key, by their indices, once there are as many as belong to it. -/
def readFieldChecked
    (draft : BulletDraft)
    (key : FieldKey)
    (values : List Node) : Checked ShapeFault BulletDraft :=
  if values.length ≠ key.arity then throw (.valueCount key values.length)
  else
    match key with
    | .uid => do
        let uid ← integerValueChecked key (← Checked.get values[0]?)
        return { draft with uid := uid }
    | .position => do
        let x ← numberValueChecked key (← Checked.get values[0]?)
        let y ← numberValueChecked key (← Checked.get values[1]?)
        return { draft with position := (x, y) }
    | .direction => do
        let direction ← numberValueChecked key (← Checked.get values[0]?)
        return { draft with direction := direction }
    | .speed => do
        let speed ← numberValueChecked key (← Checked.get values[0]?)
        return { draft with speed := speed }

theorem readFieldChecked_eq
    (draft : BulletDraft)
    (key : FieldKey)
    (values : List Node) :
    readFieldChecked draft key values = Checked.sound (readField draft key values) := by
  by_cases enough : values.length = key.arity
  · rw [readFieldChecked.eq_def, if_neg (not_not.mpr enough)]
    cases key with
    | position =>
        obtain ⟨first, second, rfl⟩ := List.length_eq_two.mp enough
        exact
          Checked.bind_eq_sound (numberValueChecked_eq .position first) fun _ =>
            Checked.bind_eq_sound (numberValueChecked_eq .position second) fun _ => rfl
    | uid =>
        obtain ⟨value, rfl⟩ := List.length_eq_one_iff.mp enough
        exact Checked.bind_eq_sound (integerValueChecked_eq .uid value) fun _ => rfl
    | direction | speed =>
        obtain ⟨value, rfl⟩ := List.length_eq_one_iff.mp enough
        exact Checked.bind_eq_sound (numberValueChecked_eq _ value) fun _ => rfl
  · have rejected : readField draft key values = .error (.valueCount key values.length) :=
      readField_eq_error_iff.mpr (.count enough)
    rw [readFieldChecked.eq_def, if_pos enough, rejected]
    rfl

/-- Read an entry of a bullet.  Where its key is looked at, unknown ones have been passed by. -/
def readEntryChecked
    (draft : BulletDraft)
    (entry : Node) : Checked ShapeFault BulletDraft :=
  match keyAndValues? entry with
  | none => do throw (.fieldNotEntry (← Checked.get (kind? entry)))
  | some (name, values) =>
      let key? := FieldKey.ofName? name
      if key? = none then return draft
      else do readFieldChecked draft (← Checked.get key?) values

theorem readEntryChecked_eq
    (draft : BulletDraft)
    (entry : Node) :
    readEntryChecked draft entry = Checked.sound (readEntry draft entry) := by
  rw [readEntryChecked, readEntry]
  cases keyAndValues? entry with
  | none =>
      rw [kind?_eq]
      rfl
  | some pair =>
      dsimp only
      cases FieldKey.ofName? pair.1 with
      | none => rfl
      | some key => exact readFieldChecked_eq draft key pair.2

/-- The items of a list that starts with the symbol `tag`, this symbol included. -/
def taggedItemsChecked
    (tag : String)
    (notList : Kind → ShapeFault)
    (otherTag : ShapeFault)
    (node : Node) : Checked ShapeFault (List Node) :=
  match node.items? with
  | none => do throw (notList (← Checked.get (kind? node)))
  | some items =>
      match items.head? with
      | some first => if first.isSymbol tag then return items else throw otherTag
      | none => throw otherTag

/-- A list that starts with its tag has an item to leave out. -/
theorem taggedItemsChecked_bind
    {α : Type}
    (tag : String)
    (notList : Kind → ShapeFault)
    (otherTag : ShapeFault)
    (node : Node)
    {next : List Node → Checked ShapeFault α}
    {goOn : List Node → Except ShapeFault α}
    (later : ∀ first rest, next (first :: rest) = Checked.sound (goOn rest)) :
    taggedItemsChecked tag notList otherTag node >>= next =
      Checked.sound (itemsAfterTag tag notList otherTag node >>= goOn) := by
  rw [taggedItemsChecked, itemsAfterTag, kind?_eq]
  rcases node.items? with - | - | ⟨first, rest⟩
  · rfl
  · rfl
  · dsimp only [List.head?_cons]
    split
    · exact later first rest
    · rfl

/-- The items of a list that starts with the symbol `tag`, from the index one on. -/
def itemsAfterTagChecked
    (tag : String)
    (notList : Kind → ShapeFault)
    (otherTag : ShapeFault)
    (node : Node) : Checked ShapeFault (List Node) := do
  let items ← taggedItemsChecked tag notList otherTag node
  Checked.get (Checked.itemsFrom? items 1)

theorem itemsAfterTagChecked_eq
    (tag : String)
    (notList : Kind → ShapeFault)
    (otherTag : ShapeFault)
    (node : Node) :
    itemsAfterTagChecked tag notList otherTag node =
      Checked.sound (itemsAfterTag tag notList otherTag node) := by
  rw [← bind_pure (itemsAfterTag tag notList otherTag node)]
  refine taggedItemsChecked_bind _ _ _ node fun first rest => ?_
  rw [Checked.itemsFrom?_eq (Nat.le_add_left 1 _)]
  rfl

/-- Read a bullet. -/
def readBulletChecked (node : Node) : Checked ShapeFault BulletEvent := do
  let entries ← itemsAfterTagChecked "bullet" .bulletNotList .bulletTag node
  let draft ← entries.foldlM readEntryChecked {}
  Checked.sound draft.finish

theorem readBulletChecked_eq (node : Node) :
    readBulletChecked node = Checked.sound (readBullet node) := by
  refine Checked.bind_eq_sound (itemsAfterTagChecked_eq _ _ _ node) fun entries => ?_
  have folded : entries.foldlM readEntryChecked {} =
      Checked.sound (entries.foldlM readEntry {}) :=
    Checked.foldlM_eq_sound (fun _ => True) (fun _ _ _ _ _ => trivial)
      (fun draft _ entry _ => readEntryChecked_eq draft entry) trivial
  exact Checked.bind_eq_sound folded fun _ => rfl

/-! ## Frames and documents -/

/-- Read the number of a frame, which comes first, and find its bullets. -/
def readHeaderChecked (node : Node) : Checked ShapeFault (Nat × List Node) := do
  let items ← taggedItemsChecked "frame" .frameNotList .frameTag node
  match items[1]? with
  | none => throw .frameNumberMissing
  | some number =>
      let frame ← frameNumberChecked number
      let bullets ← Checked.get (Checked.itemsFrom? items 2)
      return (frame, bullets)

/-- A frame that has a number has two items to leave out. -/
theorem readHeaderChecked_eq (node : Node) :
    readHeaderChecked node = Checked.sound (readHeader node) := by
  refine taggedItemsChecked_bind _ _ _ node fun first rest => ?_
  cases rest with
  | nil => rfl
  | cons number bullets =>
      refine Checked.bind_eq_sound (frameNumberChecked_eq number) fun frame => ?_
      rw [Checked.itemsFrom?_eq (Nat.le_add_left 2 _)]
      rfl

/-- Read a frame, which is the entry of the document with this index. -/
def readBlockChecked
    (index : Nat)
    (node : Node) : Checked Misshapen Block := do
  let header ← (readHeaderChecked node).restate fun fault => some ⟨.entry index, fault⟩
  let events ← header.2.zipIdx.mapM fun bullet =>
    (readBulletChecked bullet.1).restate fun fault =>
      some ⟨.bullet index header.1 bullet.2, fault⟩
  return ⟨header.1, events⟩

theorem readBlockChecked_eq
    (index : Nat)
    (node : Node) :
    readBlockChecked index node = Checked.sound (readBlock index node) := by
  rw [readBlockChecked, readHeaderChecked_eq, Checked.restate_sound _ fun _ => rfl]
  refine Checked.bind_eq_sound rfl fun header => ?_
  refine Checked.bind_eq_sound (Checked.mapM_eq_sound (fun bullet => ?_) _) fun _ => rfl
  rw [readBulletChecked_eq]
  exact Checked.restate_sound _ fun _ => rfl

/-- Read all frames of a document. -/
def readBlocksChecked (document : Node) : Checked Misshapen (List Block) := do
  let entries ←
    (itemsAfterTagChecked "ftl" .documentNotList .documentTag document).restate fun fault =>
      some ⟨.document, fault⟩
  entries.zipIdx.mapM fun entry => readBlockChecked entry.2 entry.1

theorem readBlocksChecked_eq (document : Node) :
    readBlocksChecked document = Checked.sound (readBlocks document) := by
  rw [readBlocksChecked, itemsAfterTagChecked_eq, Checked.restate_sound _ fun _ => rfl]
  refine Checked.bind_eq_sound rfl fun entries => ?_
  refine Checked.mapM_eq_sound (fun entry => ?_) _
  exact readBlockChecked_eq entry.2 entry.1

/-- The schedule that a document describes, with what was noted. -/
def buildChecked (document : Node) : Checked Misshapen Built := do
  return ofBlocks (← readBlocksChecked document)

theorem buildChecked_eq (document : Node) :
    buildChecked document = Checked.sound (build document) := by
  rw [buildChecked, readBlocksChecked_eq, build_eq]
  cases readBlocks document <;> rfl

/-- The schedule that a text describes, with what was noted. -/
def loadChecked (text : List Char) : Checked LoadFault Built := do
  let document ← (readDocumentChecked text).restate fun fault => some (.malformed fault)
  (buildChecked document).restate fun fault => some (.misshapen fault)

theorem loadChecked_eq (text : List Char) :
    loadChecked text = Checked.sound (loadNoting text) := by
  rw [loadChecked, loadNoting_eq, readDocumentChecked_eq, Checked.restate_sound _ fun _ => rfl]
  refine Checked.bind_eq_sound rfl fun document => ?_
  rw [buildChecked_eq]
  exact Checked.restate_sound _ fun _ => rfl

/--
Loading comes to its end.  After all lexemes that are accepted the depth is the
sum of the pending markers and of the open lists with the markers around them,
and it is at most 256.  So it is never less than what is taken off it, no more
than 256 lists are open, and it is zero where nothing is.  A fault is placed in
the text, and no character is cut there.  What a literal is read from starts and
ends with a quote.  With each of its operations checked, reading, building and
loading come to what they come to without, for every text and every expression.
-/
theorem loading_never_breaks_off :
    (∀ text before reader,
      before <+: (Lexemes.scan text).found →
        Reader.run {} before = .ok reader →
          reader.depth =
              reader.pending + (reader.openLists.map fun list => 1 + list.markers).sum ∧
            reader.depth ≤ 256 ∧
            reader.pending ≤ reader.depth ∧
            (∀ innermost outer,
              reader.openLists = innermost :: outer → 1 + innermost.markers ≤ reader.depth) ∧
            reader.openLists.length ≤ 256 ∧
            (reader.openLists = [] → reader.pending = 0 → reader.depth = 0)) ∧
      (∀ text fault,
        readPlaced text = .error fault →
          fault.offset ≤ text.length ∧ (placeAt text fault.offset).IsValid (String.ofList text)) ∧
      (∀ text placed body,
        placed ∈ (Lexemes.scan text).found →
          placed.lexeme = .literal body → placed.written text = '"' :: (body ++ ['"'])) ∧
      (∀ text, (readDocumentChecked text).run = some (readDocument text)) ∧
      (∀ document, (buildChecked document).run = some (build document)) ∧
      ∀ text, (loadChecked text).run = some (loadNoting text) := by
  refine ⟨?account, ?places, ?literals, readDocumentChecked_eq, buildChecked_eq, loadChecked_eq⟩
  case account =>
    intro text before reader _ accepted
    have accounted := Reader.Accounted.start.run accepted
    exact
      ⟨accounted.depth_eq, accounted.depth_le, accounted.pending_le,
        fun _ _ => accounted.innermost_le, accounted.length_openLists_le, accounted.depth_eq_zero⟩
  case places =>
    intro text fault rejected
    have inside := (rejected_of_readPlaced rejected).offset_le
    exact ⟨inside, isValid_iff_placeAt.mpr ⟨fault.offset, inside, rfl⟩⟩
  case literals =>
    intro text placed body found isLiteral
    rw [written_of_mem_scan found, isLiteral]
    rfl

/-- A literal in a list with a marker in front, and a marker that is closed there. -/
theorem marked_list_is_accounted :
    (∃ reader,
      Reader.run {} [⟨.marker, 0⟩, ⟨.opening, 1⟩, ⟨.literal ['a'], 2⟩, ⟨.marker, 5⟩] =
          .ok reader ∧
        reader.depth = 3 ∧
        reader.depth =
          reader.pending + (reader.openLists.map fun list => 1 + list.markers).sum) ∧
      readPlaced ['\'', '(', '"', 'a', '"', '\'', ')'] = .error ⟨.danglingMarker, 5⟩ ∧
      (placeAt ['\'', '(', '"', 'a', '"', '\'', ')'] 5).IsValid
        (String.ofList ['\'', '(', '"', 'a', '"', '\'', ')']) ∧
      PlacedLexeme.written ⟨.literal ['a'], 2⟩ ['\'', '(', '"', 'a', '"', '\'', ')'] =
        ['"', 'a', '"'] := by
  obtain ⟨account, places, literals, -⟩ := loading_never_breaks_off
  have found :
      (Lexemes.scan ['\'', '(', '"', 'a', '"', '\'', ')']).found =
        [⟨.marker, 0⟩, ⟨.opening, 1⟩, ⟨.literal ['a'], 2⟩, ⟨.marker, 5⟩, ⟨.closing, 6⟩] := rfl
  have read :=
    account ['\'', '(', '"', 'a', '"', '\'', ')']
      [⟨.marker, 0⟩, ⟨.opening, 1⟩, ⟨.literal ['a'], 2⟩, ⟨.marker, 5⟩]
      ⟨[⟨[Node.ofLiteral ['a']], 1, 1⟩], [], 1, 5, 3⟩
      (by rw [found]; exact ⟨[⟨.closing, 6⟩], rfl⟩) rfl
  refine ⟨⟨_, rfl, rfl, read.1⟩, rfl, (places _ ⟨.danglingMarker, 5⟩ rfl).2, ?_⟩
  exact literals _ ⟨.literal ['a'], 2⟩ ['a'] (by rw [found]; simp) rfl

end Barrage.Schedule
