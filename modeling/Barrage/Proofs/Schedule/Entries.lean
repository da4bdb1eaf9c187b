import Barrage.Proofs.Schedule.Refusing

/-!
# The entries of a bullet

Which entries a bullet has, and in which order, matters little.  Under each key
the last entry counts.  Entries under different names may change places, since
they set different parts of the draft.  Entries under a name that is no key may
stand anywhere or be left out, and neither the event nor the fault changes.

Every entry under a key is read, though.  One that does not fit its key spoils
the bullet, even if a later one takes its place.
-/

namespace Barrage.Schedule

open Barrage.Document Barrage.Traversal

/-! ## Neighbours -/

/-- Values under different keys can be put in either order. -/
theorem BulletDraft.set_comm
    (draft : BulletDraft)
    {key other : FieldKey}
    (different : key ≠ other)
    (value : key.Value)
    (otherValue : other.Value) :
    (draft.set key value).set other otherValue = (draft.set other otherValue).set key value := by
  cases key <;> cases other <;> simp only [ne_eq, not_true_eq_false] at different <;> rfl

/-- What an entry does to a draft, it does to every draft: nothing, or it sets a key. -/
theorem readEntry_comm
    {draft middle next : BulletDraft}
    {first second : Node}
    {name otherName : String}
    {values otherValues : List Node}
    (tagged : first.IsTagged name values)
    (otherTagged : second.IsTagged otherName otherValues)
    (different : name ≠ otherName)
    (readFirst : readEntry draft first = .ok middle)
    (readSecond : readEntry middle second = .ok next) :
    ∃ between, readEntry draft second = .ok between ∧ readEntry between first = .ok next := by
  obtain ⟨_, _, sameTag, effect⟩ := readEntry_eq_ok_iff.mp readFirst
  obtain ⟨rfl, rfl⟩ := tagged.unique sameTag
  obtain ⟨_, _, otherSameTag, otherEffect⟩ := readEntry_eq_ok_iff.mp readSecond
  obtain ⟨rfl, rfl⟩ := otherTagged.unique otherSameTag
  rcases effect with ⟨noKey, rfl⟩ | ⟨key, value, rfl, reads, rfl⟩
  · exact ⟨next, readSecond, readEntry_eq_ok_iff.mpr ⟨_, _, tagged, .inl ⟨noKey, rfl⟩⟩⟩
  rcases otherEffect with ⟨noKey, rfl⟩ | ⟨other, otherValue, rfl, otherReads, rfl⟩
  · exact ⟨draft, readEntry_eq_ok_iff.mpr ⟨_, _, otherTagged, .inl ⟨noKey, rfl⟩⟩, readFirst⟩
  · have differentKeys : key ≠ other := by
      rintro rfl
      exact different rfl
    refine ⟨draft.set other otherValue, ?_, ?_⟩
    · exact
        readEntry_eq_ok_iff.mpr ⟨_, _, otherTagged, .inr ⟨other, _, rfl, otherReads, rfl⟩⟩
    · rw [draft.set_comm differentKeys]
      exact readEntry_eq_ok_iff.mpr ⟨_, _, tagged, .inr ⟨key, _, rfl, reads, rfl⟩⟩

theorem readEntries_swap
    {before after : List Node}
    {first second : Node}
    {name otherName : String}
    {values otherValues : List Node}
    (tagged : first.IsTagged name values)
    (otherTagged : second.IsTagged otherName otherValues)
    (different : name ≠ otherName)
    {draft last : BulletDraft}
    (read : (before ++ first :: second :: after).foldlM readEntry draft = .ok last) :
    (before ++ second :: first :: after).foldlM readEntry draft = .ok last := by
  rw [List.foldlM_append, bind_eq_ok_iff] at read ⊢
  obtain ⟨start, readBefore, read⟩ := read
  obtain ⟨middle, readFirst, read⟩ := bind_eq_ok_iff.mp read
  obtain ⟨next, readSecond, readAfter⟩ := bind_eq_ok_iff.mp read
  obtain ⟨between, readSecond, readFirst⟩ :=
    readEntry_comm tagged otherTagged different readFirst readSecond
  refine ⟨start, readBefore, ?_⟩
  exact
    bind_eq_ok_iff.mpr
      ⟨between, readSecond, bind_eq_ok_iff.mpr ⟨next, readFirst, readAfter⟩⟩

/-! ## Entries without a key -/

/-- An entry under a name that is no key. -/
def IsIgnored (entry : Node) : Prop :=
  ∃ name values, entry.IsTagged name values ∧ ∀ key : FieldKey, key.name ≠ name

/-- The same entries in the same order, apart from ignored ones in either run. -/
inductive SameButIgnored : List Node → List Node → Prop
  | nil : SameButIgnored [] []
  | same
      (entry : Node)
      {entries others : List Node}
      (rest : SameButIgnored entries others) :
      SameButIgnored (entry :: entries) (entry :: others)
  | left
      {entry : Node}
      (ignored : IsIgnored entry)
      {entries others : List Node}
      (rest : SameButIgnored entries others) :
      SameButIgnored (entry :: entries) others
  | right
      {entry : Node}
      (ignored : IsIgnored entry)
      {entries others : List Node}
      (rest : SameButIgnored entries others) :
      SameButIgnored entries (entry :: others)

theorem IsIgnored.readEntry_eq
    {entry : Node}
    (ignored : IsIgnored entry)
    (draft : BulletDraft) :
    readEntry draft entry = .ok draft := by
  obtain ⟨name, values, tagged, noKey⟩ := ignored
  exact readEntry_eq_ok_iff.mpr ⟨name, values, tagged, .inl ⟨noKey, rfl⟩⟩

/-- Ignored entries change neither the draft that is read nor the fault. -/
theorem SameButIgnored.readEntries_eq
    {entries others : List Node}
    (same : SameButIgnored entries others)
    (draft : BulletDraft) :
    entries.foldlM readEntry draft = others.foldlM readEntry draft := by
  induction same generalizing draft with
  | nil => rfl
  | same entry _ ih =>
      rw [List.foldlM_cons, List.foldlM_cons]
      cases readEntry draft entry with
      | error fault => rfl
      | ok next => exact ih next
  | left ignored _ ih =>
      rw [List.foldlM_cons, ignored.readEntry_eq]
      exact ih draft
  | right ignored _ ih =>
      rw [List.foldlM_cons, ignored.readEntry_eq]
      exact ih draft

/-! ## Bullets -/

theorem readBullet_of_isTagged
    {bullet : Node}
    {entries : List Node}
    (tagged : bullet.IsTagged "bullet" entries) :
    readBullet bullet = entries.foldlM readEntry {} >>= BulletDraft.finish := by
  rw [readBullet, itemsAfterTag_eq_ok_iff.mpr tagged]
  rfl

/--
What the entries of a bullet come to.  An event holds what the last entry under
each key stands for.  It stays the same if two neighbours under different names
change places.  Entries under a name that is no key, wherever they are put in
or left out, change neither the event nor the fault.  An entry whose values do
not fit its key spoils the bullet, wherever it stands.
-/
theorem entries_of_bullet :
    (∀ bullet entries event,
      bullet.IsTagged "bullet" entries →
        readBullet bullet = .ok event →
          ∀ key, ∃ values, LastValues entries key values ∧ key.Reads values (key.inEvent event)) ∧
      (∀ bullet other before after first second name values otherName otherValues event,
        bullet.IsTagged "bullet" (before ++ first :: second :: after) →
          other.IsTagged "bullet" (before ++ second :: first :: after) →
            first.IsTagged name values →
              second.IsTagged otherName otherValues →
                name ≠ otherName →
                  readBullet bullet = .ok event → readBullet other = .ok event) ∧
      (∀ bullet other entries others,
        bullet.IsTagged "bullet" entries →
          other.IsTagged "bullet" others →
            SameButIgnored entries others → readBullet bullet = readBullet other) ∧
      ∀ bullet entries entry,
        bullet.IsTagged "bullet" entries →
          entry ∈ entries →
            ∀ (key : FieldKey) values,
              entry.IsTagged key.name values →
                (¬ ∃ value, key.Reads values value) →
                  ∃ fault, readBullet bullet = .error fault := by
  refine ⟨?last, ?swap, ?ignored, ?spoilt⟩
  case last =>
    intro bullet entries event tagged accepted
    obtain ⟨others, otherTagged, -, held⟩ := readBullet_eq_ok_iff.mp accepted
    obtain ⟨-, rfl⟩ := tagged.unique otherTagged
    exact held
  case swap =>
    intro bullet other before after first second name values otherName otherValues event
      tagged otherTagged firstTagged secondTagged different accepted
    rw [readBullet_of_isTagged tagged, bind_eq_ok_iff] at accepted
    obtain ⟨draft, read, finished⟩ := accepted
    rw [readBullet_of_isTagged otherTagged, bind_eq_ok_iff]
    exact ⟨draft, readEntries_swap firstTagged secondTagged different read, finished⟩
  case ignored =>
    intro bullet other entries others tagged otherTagged same
    rw [readBullet_of_isTagged tagged, readBullet_of_isTagged otherTagged, same.readEntries_eq]
  case spoilt =>
    intro bullet entries entry tagged member key values entryTagged unfit
    cases outcome : readBullet bullet with
    | error fault => exact ⟨fault, rfl⟩
    | ok event =>
        obtain ⟨others, otherTagged, fits, -⟩ := readBullet_eq_ok_iff.mp outcome
        obtain ⟨-, rfl⟩ := tagged.unique otherTagged
        exact absurd ((fits entry member).exists_reads entryTagged) unfit

end Barrage.Schedule
