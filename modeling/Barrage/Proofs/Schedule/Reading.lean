import Barrage.Proofs.Schedule.Attempting
import Barrage.Proofs.Schedule.Described
import Mathlib.Data.List.Induction

/-!
# Reading a document's layout

Each reading function accepts exactly the nodes of its kind and answers with
what they describe.  For a bullet this is an induction over its entries from
the first to the last: the draft holds, for every key, what the last entry
under this key stands for.
-/

namespace Barrage.Schedule

open Barrage.Document Barrage.Number Barrage.Traversal

/-! ## Values -/

theorem integerValue_unquoted
    (key : FieldKey)
    (node : Node) :
    integerValue key node.unquoted = integerValue key node := by
  induction node using Node.unquoted.induct with
  | case1 inner ih => simpa [integerValue] using ih
  | case2 node notQuoted =>
      rw [Node.unquoted]
      exact notQuoted

theorem numberValue_unquoted
    (key : FieldKey)
    (node : Node) :
    numberValue key node.unquoted = numberValue key node := by
  induction node using Node.unquoted.induct with
  | case1 inner ih => simpa [numberValue] using ih
  | case2 node notQuoted =>
      rw [Node.unquoted]
      exact notQuoted

theorem frameNumber_unquoted (node : Node) :
    frameNumber node.unquoted = frameNumber node := by
  induction node using Node.unquoted.induct with
  | case1 inner ih => simpa [frameNumber] using ih
  | case2 node notQuoted =>
      rw [Node.unquoted]
      exact notQuoted

theorem integerValue_eq_ok_iff
    {key : FieldKey}
    {value : Node}
    {whole : Int} :
    integerValue key value = .ok whole ↔ value.IsInteger whole := by
  rw [← integerValue_unquoted, Node.IsInteger]
  cases bare : value.unquoted with
  | quoted inner => exact absurd bare (Node.unquoted_ne_quoted value inner)
  | real number =>
      simp only [integerValue, reduceCtorEq, Node.real.injEq, exists_eq_left', false_or]
      rw [← wholeNumber?_eq_some_iff]
      cases wholeNumber? number <;> simp
  | _ => simp [integerValue]

theorem numberValue_eq_ok_iff
    {key : FieldKey}
    {value : Node}
    {number : Float} :
    numberValue key value = .ok number ↔ value.IsNumber number := by
  rw [← numberValue_unquoted, Node.IsNumber]
  cases bare : value.unquoted with
  | quoted inner => exact absurd bare (Node.unquoted_ne_quoted value inner)
  | integer whole => simp [numberValue, eq_comm]
  | _ => simp [numberValue]

theorem frameNumber_eq_ok_iff
    {node : Node}
    {frame : Nat} :
    frameNumber node = .ok frame ↔ node.unquoted = .integer frame := by
  rw [← frameNumber_unquoted]
  cases bare : node.unquoted with
  | quoted inner => exact absurd bare (Node.unquoted_ne_quoted node inner)
  | integer value =>
      rw [frameNumber, Node.integer.injEq]
      split
      next natural =>
        rw [Except.ok.injEq]
        omega
      next negative =>
        constructor
        · intro impossible
          cases impossible
        · rintro rfl
          omega
  | _ => simp [frameNumber]

/-! ## Entries -/

namespace BulletDraft

/-- What a draft holds under a key. -/
def get (draft : BulletDraft) : (key : FieldKey) → Option key.Value
  | .uid => draft.uid
  | .position => draft.position
  | .direction => draft.direction
  | .speed => draft.speed

/-- Put a value under a key. -/
def set (draft : BulletDraft) : (key : FieldKey) → key.Value → BulletDraft
  | .uid, whole => { draft with uid := some whole }
  | .position, point => { draft with position := some point }
  | .direction, number => { draft with direction := some number }
  | .speed, number => { draft with speed := some number }

@[simp]
theorem get_set_self
    (draft : BulletDraft)
    (key : FieldKey)
    (value : key.Value) :
    (draft.set key value).get key = some value := by
  cases key <;> rfl

theorem get_set_of_ne
    (draft : BulletDraft)
    {key other : FieldKey}
    (different : other ≠ key)
    (value : key.Value) :
    (draft.set key value).get other = draft.get other := by
  cases key <;> cases other <;> simp only [ne_eq, not_true_eq_false] at different <;> rfl

@[simp]
theorem get_empty (key : FieldKey) : get {} key = none := by
  cases key <;> rfl

theorem finish_eq_ok_iff
    {draft : BulletDraft}
    {event : BulletEvent} :
    draft.finish = .ok event ↔ ∀ key, draft.get key = some (key.inEvent event) := by
  obtain ⟨uid, position, direction, speed⟩ := draft
  obtain ⟨eventUid, x, y, eventDirection, eventSpeed⟩ := event
  constructor
  · intro finished key
    rw [finish] at finished
    split at finished
    next uidGiven positionGiven directionGiven speedGiven =>
      cases finished
      cases key
      · exact uidGiven
      · exact positionGiven
      · exact directionGiven
      · exact speedGiven
    next => cases finished
  · intro complete
    have uidGiven : uid = some eventUid := complete .uid
    have positionGiven : position = some (x, y) := complete .position
    have directionGiven : direction = some eventDirection := complete .direction
    have speedGiven : speed = some eventSpeed := complete .speed
    subst uidGiven positionGiven directionGiven speedGiven
    rfl

end BulletDraft

theorem keyAndValues?_eq_some_iff
    {entry : Node}
    {name : String}
    {values : List Node} :
    keyAndValues? entry = some (name, values) ↔ entry.IsTagged name values := by
  rw [Node.isTagged_iff_items?, keyAndValues?]
  split
  next key found list =>
    simp only [list, Option.map_eq_some_iff, Prod.mk.injEq, Option.some.injEq, List.cons.injEq]
    constructor
    · rintro ⟨_, symbol, rfl, rfl⟩
      exact ⟨key, ⟨rfl, rfl⟩, symbol⟩
    · rintro ⟨_, ⟨rfl, rfl⟩, symbol⟩
      exact ⟨name, symbol, rfl, rfl⟩
  next notHeaded =>
    constructor
    · intro impossible
      cases impossible
    · rintro ⟨first, list, -⟩
      exact absurd list (notHeaded first values)

theorem readField_eq_ok_iff
    {draft next : BulletDraft}
    {key : FieldKey}
    {values : List Node} :
    readField draft key values = .ok next ↔
      ∃ value, key.Reads values value ∧ next = draft.set key value := by
  constructor
  · intro read
    rw [readField.eq_def] at read
    split at read
    · obtain ⟨whole, value, equal⟩ := bind_eq_ok_iff.mp read
      cases equal
      exact ⟨whole, integerValue_eq_ok_iff.mp value, rfl⟩
    · obtain ⟨x, first, rest⟩ := bind_eq_ok_iff.mp read
      obtain ⟨y, second, equal⟩ := bind_eq_ok_iff.mp rest
      cases equal
      exact
        ⟨(x, y), ⟨numberValue_eq_ok_iff.mp first, numberValue_eq_ok_iff.mp second⟩, rfl⟩
    · obtain ⟨number, value, equal⟩ := bind_eq_ok_iff.mp read
      cases equal
      exact ⟨number, numberValue_eq_ok_iff.mp value, rfl⟩
    · obtain ⟨number, value, equal⟩ := bind_eq_ok_iff.mp read
      cases equal
      exact ⟨number, numberValue_eq_ok_iff.mp value, rfl⟩
    · cases read
  · rintro ⟨value, reads, rfl⟩
    rw [FieldKey.Reads.eq_def] at reads
    split at reads
    · exact bind_eq_ok_iff.mpr ⟨_, integerValue_eq_ok_iff.mpr reads, rfl⟩
    · exact
        bind_eq_ok_iff.mpr
          ⟨_, numberValue_eq_ok_iff.mpr reads.1,
            bind_eq_ok_iff.mpr ⟨_, numberValue_eq_ok_iff.mpr reads.2, rfl⟩⟩
    · exact bind_eq_ok_iff.mpr ⟨_, numberValue_eq_ok_iff.mpr reads, rfl⟩
    · exact bind_eq_ok_iff.mpr ⟨_, numberValue_eq_ok_iff.mpr reads, rfl⟩
    · exact reads.elim

/-- An entry without a key changes nothing, and an entry under a key sets it. -/
theorem readEntry_eq_ok_iff
    {draft next : BulletDraft}
    {entry : Node} :
    readEntry draft entry = .ok next ↔
      ∃ name values,
        entry.IsTagged name values ∧
          (((∀ key : FieldKey, key.name ≠ name) ∧ next = draft) ∨
            ∃ key value,
              key.name = name ∧ key.Reads values value ∧ next = draft.set key value) := by
  rw [readEntry]
  split
  next notEntry =>
    constructor
    · intro impossible
      cases impossible
    · rintro ⟨name, values, tagged, -⟩
      rw [keyAndValues?_eq_some_iff.mpr tagged] at notEntry
      cases notEntry
  next name values found =>
    have tagged := keyAndValues?_eq_some_iff.mp found
    constructor
    · intro read
      refine ⟨name, values, tagged, ?_⟩
      split at read
      next unknown =>
        cases read
        refine .inl ⟨?_, rfl⟩
        rintro key rfl
        rw [key.ofName?_name] at unknown
        cases unknown
      next key known =>
        obtain ⟨value, reads, rfl⟩ := readField_eq_ok_iff.mp read
        exact .inr ⟨key, value, FieldKey.name_of_ofName? known, reads, rfl⟩
    · rintro ⟨otherName, otherValues, otherTagged, effect⟩
      obtain ⟨rfl, rfl⟩ := tagged.unique otherTagged
      rcases effect with ⟨noKey, rfl⟩ | ⟨key, value, rfl, reads, rfl⟩
      · split
        next => rfl
        next key known => exact absurd (FieldKey.name_of_ofName? known) (noKey key)
      · rw [key.ofName?_name]
        exact readField_eq_ok_iff.mpr ⟨value, reads, rfl⟩

/-! ## Bullets -/

/-- The draft holds what the last entry under each key stands for: the invariant of reading. -/
structure BulletDraft.Holds
    (draft : BulletDraft)
    (entries : List Node) : Prop where
  get_eq_some_iff : ∀ key value,
    draft.get key = some value ↔
      ∃ values, LastValues entries key values ∧ key.Reads values value

theorem isEntry_of_readEntry
    {draft next : BulletDraft}
    {entry : Node}
    (read : readEntry draft entry = .ok next) :
    IsEntry entry := by
  obtain ⟨name, values, tagged, effect⟩ := readEntry_eq_ok_iff.mp read
  refine ⟨name, values, tagged, ?_⟩
  rintro key rfl
  rcases effect with ⟨noKey, -⟩ | ⟨other, value, same, reads, -⟩
  · exact absurd rfl (noKey key)
  · obtain rfl : other = key :=
      Option.some.inj (by rw [← other.ofName?_name, same, key.ofName?_name])
    exact ⟨value, reads⟩

theorem exists_readEntry
    {entry : Node}
    (fits : IsEntry entry)
    (draft : BulletDraft) :
    ∃ next, readEntry draft entry = .ok next := by
  obtain ⟨name, values, tagged, reads⟩ := fits
  by_cases known : ∃ key : FieldKey, key.name = name
  · obtain ⟨key, same⟩ := known
    obtain ⟨value, readsValue⟩ := reads key same
    exact
      ⟨draft.set key value,
        readEntry_eq_ok_iff.mpr
          ⟨name, values, tagged, .inr ⟨key, value, same, readsValue, rfl⟩⟩⟩
  · exact
      ⟨draft,
        readEntry_eq_ok_iff.mpr
          ⟨name, values, tagged, .inl ⟨fun key same => known ⟨key, same⟩, rfl⟩⟩⟩

/-- Reading one more entry keeps the draft in step with the entries. -/
theorem BulletDraft.Holds.snoc
    {draft next : BulletDraft}
    {entries : List Node}
    {entry : Node}
    (holds : draft.Holds entries)
    (read : readEntry draft entry = .ok next) :
    next.Holds (entries ++ [entry]) := by
  obtain ⟨name, values, tagged, effect⟩ := readEntry_eq_ok_iff.mp read
  constructor
  intro key value
  simp only [lastValues_snoc_iff]
  by_cases under : key.name = name
  · subst under
    rcases effect with ⟨noKey, -⟩ | ⟨other, stored, same, reads, rfl⟩
    · exact absurd rfl (noKey key)
    · obtain rfl : other = key :=
        Option.some.inj (by rw [← other.ofName?_name, same, key.ofName?_name])
      rw [get_set_self, Option.some.injEq]
      constructor
      · rintro rfl
        exact ⟨values, .inl tagged, reads⟩
      · rintro ⟨otherValues, otherTagged | ⟨notTagged, -⟩, otherReads⟩
        · obtain ⟨-, rfl⟩ := tagged.unique otherTagged
          exact FieldKey.reads_unique reads otherReads
        · exact absurd tagged (notTagged values)
  · have elsewhere : ∀ others, ¬ entry.IsTagged key.name others := by
      intro others otherTagged
      exact under (otherTagged.unique tagged).1
    have kept : next.get key = draft.get key := by
      rcases effect with ⟨-, rfl⟩ | ⟨other, stored, same, -, rfl⟩
      · rfl
      · refine draft.get_set_of_ne ?_ stored
        rintro rfl
        exact under same
    rw [kept, holds.get_eq_some_iff key value]
    constructor
    · rintro ⟨lastValues, last, reads⟩
      exact ⟨lastValues, .inr ⟨elsewhere, last⟩, reads⟩
    · rintro ⟨lastValues, otherTagged | ⟨-, last⟩, reads⟩
      · exact absurd otherTagged (elsewhere lastValues)
      · exact ⟨lastValues, last, reads⟩

/-- Reading entries succeeds exactly if each is one, and then the draft holds the last of them. -/
theorem readEntries_eq_ok_iff
    {entries : List Node} :
    (∃ draft, entries.foldlM readEntry {} = Except.ok draft) ↔
      ∀ entry ∈ entries, IsEntry entry := by
  induction entries using List.reverseRecOn with
  | nil => simp [pure, Except.pure]
  | append_singleton front entry ih =>
      simp only [List.foldlM_append, List.foldlM_cons, List.foldlM_nil, bind_eq_ok_iff]
      constructor
      · rintro ⟨draft, middle, read, next, readLast, -⟩ other member
        rcases List.mem_append.mp member with inside | last
        · exact ih.mp ⟨middle, read⟩ other inside
        · rw [List.mem_singleton.mp last]
          exact isEntry_of_readEntry readLast
      · intro entries
        obtain ⟨middle, read⟩ :=
          ih.mpr fun other member => entries other (List.mem_append_left _ member)
        obtain ⟨next, readLast⟩ := exists_readEntry (entries entry (by simp)) middle
        exact ⟨next, middle, read, next, readLast, rfl⟩

theorem holds_of_readEntries
    {entries : List Node}
    {draft : BulletDraft}
    (read : entries.foldlM readEntry {} = Except.ok draft) :
    draft.Holds entries := by
  induction entries using List.reverseRecOn generalizing draft with
  | nil =>
      cases read
      constructor
      intro key value
      rw [BulletDraft.get_empty]
      constructor
      · intro impossible
        cases impossible
      · rintro ⟨values, last, -⟩
        exact absurd last (not_lastValues_nil key values)
  | append_singleton front entry ih =>
      rw [List.foldlM_append] at read
      obtain ⟨middle, readFront, rest⟩ := bind_eq_ok_iff.mp read
      obtain ⟨next, readLast, equal⟩ := bind_eq_ok_iff.mp rest
      cases equal
      exact (ih readFront).snoc readLast

theorem itemsAfterTag_eq_ok_iff
    {tag : String}
    {notList : Kind → ShapeFault}
    {otherTag : ShapeFault}
    {node : Node}
    {rest : List Node} :
    itemsAfterTag tag notList otherTag node = .ok rest ↔ node.IsTagged tag rest := by
  rw [itemsAfterTag, Node.isTagged_iff_items?]
  split
  next list => simp [list]
  next list => simp [list]
  next first items list =>
    simp only [list, Option.some.injEq, List.cons.injEq, Node.isSymbol, beq_iff_eq]
    constructor
    · intro accepted
      split at accepted
      next symbol =>
        cases accepted
        exact ⟨first, ⟨rfl, rfl⟩, symbol⟩
      next => cases accepted
    · rintro ⟨_, ⟨rfl, rfl⟩, symbol⟩
      rw [if_pos symbol]

theorem readBullet_eq_ok_iff
    {node : Node}
    {event : BulletEvent} :
    readBullet node = .ok event ↔ IsBullet node event := by
  rw [readBullet, bind_eq_ok_iff]
  constructor
  · rintro ⟨entries, tagged, read⟩
    obtain ⟨draft, entriesRead, finished⟩ := bind_eq_ok_iff.mp read
    have complete := BulletDraft.finish_eq_ok_iff.mp finished
    refine
      ⟨entries, itemsAfterTag_eq_ok_iff.mp tagged,
        readEntries_eq_ok_iff.mp ⟨draft, entriesRead⟩, ?_⟩
    intro key
    exact ((holds_of_readEntries entriesRead).get_eq_some_iff key _).mp (complete key)
  · rintro ⟨entries, tagged, fits, last⟩
    obtain ⟨draft, entriesRead⟩ := readEntries_eq_ok_iff.mpr fits
    refine
      ⟨entries, itemsAfterTag_eq_ok_iff.mpr tagged,
        bind_eq_ok_iff.mpr ⟨draft, entriesRead, ?_⟩⟩
    rw [BulletDraft.finish_eq_ok_iff]
    intro key
    exact ((holds_of_readEntries entriesRead).get_eq_some_iff key _).mpr (last key)

/-! ## Frames and documents -/

theorem readHeader_eq_ok_iff
    {node : Node}
    {frame : Nat}
    {bullets : List Node} :
    readHeader node = .ok (frame, bullets) ↔
      ∃ number,
        node.IsTagged "frame" (number :: bullets) ∧ number.unquoted = .integer frame := by
  rw [readHeader, bind_eq_ok_iff]
  constructor
  · rintro ⟨items, tagged, read⟩
    split at read
    next => cases read
    next number rest =>
      obtain ⟨value, numbered, equal⟩ := bind_eq_ok_iff.mp read
      cases equal
      exact
        ⟨number, itemsAfterTag_eq_ok_iff.mp tagged, frameNumber_eq_ok_iff.mp numbered⟩
  · rintro ⟨number, tagged, numbered⟩
    exact
      ⟨_, itemsAfterTag_eq_ok_iff.mpr tagged,
        bind_eq_ok_iff.mpr ⟨frame, frameNumber_eq_ok_iff.mpr numbered, rfl⟩⟩

theorem readBlock_eq_ok_iff
    {index : Nat}
    {node : Node}
    {block : Block} :
    readBlock index node = .ok block ↔ IsFrame node block := by
  rw [readBlock, bind_eq_ok_iff]
  constructor
  · rintro ⟨⟨frame, nodes⟩, header, read⟩
    rw [mapError_eq_ok_iff] at header
    obtain ⟨number, tagged, numbered⟩ := readHeader_eq_ok_iff.mp header
    obtain ⟨events, eventsRead, equal⟩ := bind_eq_ok_iff.mp read
    cases equal
    have bullets := (mapM_zipIdx_eq_ok_iff fun _ _ _ =>
      mapError_eq_ok_iff.trans readBullet_eq_ok_iff).mp eventsRead
    exact ⟨number, nodes, tagged, numbered, bullets⟩
  · rintro ⟨number, nodes, tagged, numbered, events⟩
    refine ⟨(block.frame, nodes), ?_, ?_⟩
    · rw [mapError_eq_ok_iff]
      exact readHeader_eq_ok_iff.mpr ⟨number, tagged, numbered⟩
    · exact
        bind_eq_ok_iff.mpr
          ⟨block.events, (mapM_zipIdx_eq_ok_iff fun _ _ _ =>
            mapError_eq_ok_iff.trans readBullet_eq_ok_iff).mpr events, rfl⟩

theorem readBlocks_eq_ok_iff
    {document : Node}
    {blocks : List Block} :
    readBlocks document = .ok blocks ↔ IsDocument document blocks := by
  rw [readBlocks, bind_eq_ok_iff]
  constructor
  · rintro ⟨entries, tagged, read⟩
    rw [mapError_eq_ok_iff, itemsAfterTag_eq_ok_iff] at tagged
    have frames := (mapM_zipIdx_eq_ok_iff fun _ _ _ => readBlock_eq_ok_iff).mp read
    exact ⟨entries, tagged, frames⟩
  · rintro ⟨entries, tagged, frames⟩
    refine ⟨entries, ?_, ?_⟩
    · rwa [mapError_eq_ok_iff, itemsAfterTag_eq_ok_iff]
    · exact (mapM_zipIdx_eq_ok_iff fun _ _ _ => readBlock_eq_ok_iff).mpr frames

end Barrage.Schedule
