import Barrage.Proofs.Schedule.Reading

/-!
# What the layout refuses

The counterpart of what each reading function accepts: when it refuses a node,
and for which fault.  A value is refused for what it is, an entry for the first
of its values that is not of the kind of its key, a run of entries for the
first one among them that is none.

Whether an entry is refused does not depend on the entries before it.  So each
entry has its fault on its own (`EntryFault`), and so has the header of a frame
(`HeaderFault`).
-/

namespace Barrage.Schedule

open Barrage.Document Barrage.Number Barrage.Traversal

/-! ## Values -/

namespace Found

@[simp]
theorem ofNode_unquoted (node : Node) : ofNode node.unquoted = ofNode node := by
  induction node using Node.unquoted.induct with
  | case1 inner ih => simpa [ofNode] using ih
  | case2 node notQuoted =>
      rw [Node.unquoted]
      exact notQuoted

end Found

theorem integerValue_eq_error_iff
    {key : FieldKey}
    {value : Node}
    {fault : ShapeFault} :
    integerValue key value = .error fault ↔
      (∀ whole, ¬ value.IsInteger whole) ∧ fault = .notInteger key (Found.ofNode value) := by
  have only : ∀ other,
      integerValue key value = .error other → other = .notInteger key (Found.ofNode value) := by
    intro other rejected
    rw [← integerValue_unquoted] at rejected
    rw [← Found.ofNode_unquoted]
    cases bare : value.unquoted with
    | quoted inner => exact absurd bare (Node.unquoted_ne_quoted value inner)
    | integer whole =>
        rw [bare] at rejected
        cases rejected
    | real number =>
        rw [bare, integerValue] at rejected
        split at rejected
        next => cases rejected
        next =>
          cases rejected
          rfl
    | symbol _ | text _ | list _ =>
        rw [bare] at rejected
        cases rejected
        rfl
  rw [eq_error_iff_of_only_fault only]
  simp only [ne_eq, integerValue_eq_ok_iff]

theorem numberValue_eq_error_iff
    {key : FieldKey}
    {value : Node}
    {fault : ShapeFault} :
    numberValue key value = .error fault ↔
      (∀ number, ¬ value.IsNumber number) ∧ fault = .notNumber key (Found.ofNode value) := by
  have only : ∀ other,
      numberValue key value = .error other → other = .notNumber key (Found.ofNode value) := by
    intro other rejected
    rw [← numberValue_unquoted] at rejected
    rw [← Found.ofNode_unquoted]
    cases bare : value.unquoted with
    | quoted inner => exact absurd bare (Node.unquoted_ne_quoted value inner)
    | integer _ | real _ =>
        rw [bare] at rejected
        cases rejected
    | symbol _ | text _ | list _ =>
        rw [bare] at rejected
        cases rejected
        rfl
  rw [eq_error_iff_of_only_fault only]
  simp only [ne_eq, numberValue_eq_ok_iff]

namespace FieldKey

/-- The value is of the kind that a key takes: an integer for a uid, and else a number. -/
def Takes : FieldKey → Node → Prop
  | uid, value => ∃ whole, value.IsInteger whole
  | position, value | direction, value | speed, value => ∃ number, value.IsNumber number

/-- The fault of a value that is not of the kind of its key. -/
def otherKind : FieldKey → Found → ShapeFault
  | uid, found => .notInteger uid found
  | position, found => .notNumber position found
  | direction, found => .notNumber direction found
  | speed, found => .notNumber speed found

/-- Why these nodes are not the values of a key: their number, or the first that does not fit. -/
inductive Rejects
    (key : FieldKey)
    (values : List Node) : ShapeFault → Prop
  | count (other : values.length ≠ key.arity) :
      Rejects key values (.valueCount key values.length)
  | value
      {before after : List Node}
      {value : Node}
      (split : values = before ++ value :: after)
      (enough : values.length = key.arity)
      (fitting : ∀ earlier ∈ before, key.Takes earlier)
      (unfit : ¬ key.Takes value) :
      Rejects key values (key.otherKind (Found.ofNode value))

variable
    {key : FieldKey}
    {fault : ShapeFault}

theorem rejects_singleton_iff
    (one : key.arity = 1)
    (value : Node) :
    key.Rejects [value] fault ↔
      ¬ key.Takes value ∧ fault = key.otherKind (Found.ofNode value) := by
  constructor
  · intro rejects
    cases rejects with
    | count other => exact absurd one.symm other
    | @value before after value split _ _ unfit =>
        cases before with
        | nil =>
            cases split
            exact ⟨unfit, rfl⟩
        | cons _ before => simp at split
  · rintro ⟨unfit, rfl⟩
    exact .value (List.nil_append [value]).symm one.symm (by simp) unfit

theorem rejects_pair_iff
    (two : key.arity = 2)
    (first second : Node) :
    key.Rejects [first, second] fault ↔
      (¬ key.Takes first ∧ fault = key.otherKind (Found.ofNode first)) ∨
        key.Takes first ∧
          ¬ key.Takes second ∧ fault = key.otherKind (Found.ofNode second) := by
  constructor
  · intro rejects
    cases rejects with
    | count other => exact absurd two.symm other
    | @value before after value split _ fitting unfit =>
        match before with
        | [] =>
            cases split
            exact .inl ⟨unfit, rfl⟩
        | [_] =>
            cases split
            exact .inr ⟨fitting first List.mem_cons_self, unfit, rfl⟩
        | _ :: _ :: _ => simp at split
  · rintro (⟨unfit, rfl⟩ | ⟨fits, unfit, rfl⟩)
    · exact .value (List.nil_append [first, second]).symm two.symm (by simp) unfit
    · refine .value (List.singleton_append).symm two.symm ?_ unfit
      intro earlier member
      rw [List.mem_singleton.mp member]
      exact fits

end FieldKey

theorem readField_singleton_eq_error_iff
    (draft : BulletDraft)
    {key : FieldKey}
    (one : key.arity = 1)
    (value : Node)
    {fault : ShapeFault} :
    readField draft key [value] = .error fault ↔
      ¬ key.Takes value ∧ fault = key.otherKind (Found.ofNode value) := by
  cases key with
  | position => cases one
  | uid =>
      rw [readField, bind_eq_error_iff, integerValue_eq_error_iff, FieldKey.Takes, not_exists]
      refine or_iff_left ?_
      rintro ⟨whole, -, impossible⟩
      cases impossible
  | direction | speed =>
      rw [readField, bind_eq_error_iff, numberValue_eq_error_iff, FieldKey.Takes, not_exists]
      refine or_iff_left ?_
      rintro ⟨number, -, impossible⟩
      cases impossible

theorem readField_position_eq_error_iff
    (draft : BulletDraft)
    (first second : Node)
    {fault : ShapeFault} :
    readField draft .position [first, second] = .error fault ↔
      (¬ FieldKey.position.Takes first ∧
          fault = FieldKey.position.otherKind (Found.ofNode first)) ∨
        FieldKey.position.Takes first ∧
          ¬ FieldKey.position.Takes second ∧
            fault = FieldKey.position.otherKind (Found.ofNode second) := by
  rw [readField, bind_eq_error_iff, numberValue_eq_error_iff, FieldKey.Takes, not_exists]
  refine or_congr Iff.rfl ?_
  constructor
  · rintro ⟨x, read, rejected⟩
    refine ⟨⟨x, numberValue_eq_ok_iff.mp read⟩, ?_⟩
    rcases bind_eq_error_iff.mp rejected with rejected | ⟨y, -, impossible⟩
    · rw [FieldKey.Takes, not_exists]
      exact numberValue_eq_error_iff.mp rejected
    · cases impossible
  · rintro ⟨⟨x, isNumber⟩, unfit, rfl⟩
    refine ⟨x, numberValue_eq_ok_iff.mpr isNumber, bind_eq_error_iff.mpr (.inl ?_)⟩
    exact numberValue_eq_error_iff.mpr ⟨not_exists.mp unfit, rfl⟩

theorem readField_eq_error_iff
    {draft : BulletDraft}
    {key : FieldKey}
    {values : List Node}
    {fault : ShapeFault} :
    readField draft key values = .error fault ↔ key.Rejects values fault := by
  by_cases enough : values.length = key.arity
  · cases key with
    | position =>
        obtain ⟨first, second, rfl⟩ := List.length_eq_two.mp enough
        rw [readField_position_eq_error_iff, FieldKey.rejects_pair_iff rfl]
    | uid | direction | speed =>
        obtain ⟨value, rfl⟩ := List.length_eq_one_iff.mp enough
        rw [readField_singleton_eq_error_iff draft rfl, FieldKey.rejects_singleton_iff rfl]
  · have counted : readField draft key values = .error (.valueCount key values.length) := by
      rw [readField.eq_def]
      split
      case h_5 => rfl
      all_goals exact absurd rfl enough
    rw [counted, Except.error.injEq]
    constructor
    · rintro rfl
      exact .count enough
    · rintro (other | ⟨-, same, -, -⟩)
      · rfl
      · exact absurd same enough

/-- What is wrong with an entry of a bullet, whatever stands around it. -/
inductive EntryFault (entry : Node) : ShapeFault → Prop
  | notEntry (headless : ∀ name values, ¬ entry.IsTagged name values) :
      EntryFault entry (.fieldNotEntry entry.kind)
  | field
      {key : FieldKey}
      {values : List Node}
      (tagged : entry.IsTagged key.name values)
      {fault : ShapeFault}
      (rejects : key.Rejects values fault) :
      EntryFault entry fault

/-- All keys, in the order in which missing ones are listed. -/
def FieldKey.all : List FieldKey :=
  [uid, position, direction, speed]

/-- These are the keys without an entry, in their order. -/
def AreMissing
    (entries : List Node)
    (keys : List FieldKey) : Prop :=
  keys.Sublist FieldKey.all ∧
    ∀ key, key ∈ keys ↔ ∀ entry ∈ entries, ∀ values, ¬ entry.IsTagged key.name values

/-- Under its key an entry has values that the key takes. -/
theorem IsEntry.exists_reads
    {entry : Node}
    (fits : IsEntry entry)
    {key : FieldKey}
    {values : List Node}
    (tagged : entry.IsTagged key.name values) :
    ∃ value, key.Reads values value := by
  obtain ⟨name, others, otherTagged, reads⟩ := fits
  obtain ⟨same, rfl⟩ := tagged.unique otherTagged
  exact reads key same

theorem AreMissing.unique
    {entries : List Node}
    {keys others : List FieldKey}
    (missing : AreMissing entries keys)
    (otherMissing : AreMissing entries others) :
    keys = others := by
  have ascending :
      FieldKey.all.Pairwise fun key other =>
        FieldKey.all.idxOf key < FieldKey.all.idxOf other := by
    decide
  have nodup : FieldKey.all.Nodup := by decide
  have same : keys.Perm others :=
    (List.perm_ext_iff_of_nodup (missing.1.nodup nodup) (otherMissing.1.nodup nodup)).mpr
      fun key => (missing.2 key).trans (otherMissing.2 key).symm
  refine
    same.eq_of_pairwise ?_ (ascending.sublist missing.1) (ascending.sublist otherMissing.1)
  intro key other _ _ before after
  exact absurd (Nat.lt_trans before after) (Nat.lt_irrefl _)

/-! ## Tags and headers -/

/-- Why a node is not a list under a tag. -/
inductive TagFault
    (tag : String)
    (notList : Kind → ShapeFault)
    (otherTag : ShapeFault)
    (node : Node) : ShapeFault → Prop
  | notList (noItems : node.items? = none) :
      TagFault tag notList otherTag node (notList node.kind)
  | otherTag
      (isList : node.items? ≠ none)
      (untagged : ∀ rest, ¬ node.IsTagged tag rest) :
      TagFault tag notList otherTag node otherTag

/-- Why a node does not start like a frame: with its tag and a natural number. -/
inductive HeaderFault (node : Node) : ShapeFault → Prop
  | tag
      {fault : ShapeFault}
      (faulty : TagFault "frame" .frameNotList .frameTag node fault) :
      HeaderFault node fault
  | noNumber (tagged : node.IsTagged "frame" []) :
      HeaderFault node .frameNumberMissing
  | number
      {number : Node}
      {bullets : List Node}
      (tagged : node.IsTagged "frame" (number :: bullets))
      (unfit : ∀ frame : Nat, number.unquoted ≠ .integer frame) :
      HeaderFault node (.frameNumber (Found.ofNode number))

end Barrage.Schedule
