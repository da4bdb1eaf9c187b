import Barrage.Journal
import Mathlib.Computability.Language
import Mathlib.Data.Finset.Dedup

/-!
# Replaying records

A journal can be replayed without playback: a bullet that appears is in flight
from then on, and one that leaves is not.  `Record.replay?` does this for one
record and refuses a record that cannot stand where it does.  A bullet appears
only while it is not in flight, and it is set anew or leaves only while it is.

What records that can be replayed say about a single bullet falls into lives
(`mem_lives_of_replayAll?`).  A life begins with the bullet's appearance, and
ends when it leaves.
-/

namespace Barrage

open scoped Computability

namespace Record

/-- The bullets in flight after a record, if it can stand where these are in flight. -/
def replay?
    (inFlight : Finset Int) : Record → Option (Finset Int)
  | created uid _ => if uid ∈ inFlight then none else some (insert uid inFlight)
  | updated uid _ => if uid ∈ inFlight then some inFlight else none
  | left uid _ => if uid ∈ inFlight then some (inFlight.erase uid) else none
  | finished _ => some inFlight
  | frameRepeated _ | scheduleBuilt _ _ _ => none

/-- The bullets in flight after some records, oldest first, if all of them can stand there. -/
def replayAll?
    (inFlight : Finset Int)
    (records : List Record) : Option (Finset Int) :=
  records.foldlM replay? inFlight

theorem replayAll?_cons
    (inFlight : Finset Int)
    (record : Record)
    (rest : List Record) :
    replayAll? inFlight (record :: rest) =
      (record.replay? inFlight).bind fun next => replayAll? next rest := rfl

theorem replayAll?_append
    (inFlight : Finset Int)
    (before after : List Record) :
    replayAll? inFlight (before ++ after) =
      (replayAll? inFlight before).bind fun next => replayAll? next after := by
  simp only [replayAll?, List.foldlM_append]
  rfl

/-- Bullets that leave one after the other are taken away. -/
theorem replayAll?_left
    {inFlight : Finset Int}
    (uids : List Int)
    (frame : Nat)
    (nodup : uids.Nodup)
    (present : ∀ uid ∈ uids, uid ∈ inFlight) :
    replayAll? inFlight (uids.map (left · frame)) = some (inFlight \ uids.toFinset) := by
  induction uids generalizing inFlight with
  | nil => simp [replayAll?]
  | cons uid rest ih =>
      obtain ⟨absent, restNodup⟩ := List.nodup_cons.mp nodup
      have stillPresent : ∀ other ∈ rest, other ∈ inFlight.erase uid := by
        intro other member
        refine Finset.mem_erase.mpr ⟨?_, present other (List.mem_cons_of_mem uid member)⟩
        rintro rfl
        exact absent member
      rw [List.map_cons, replayAll?_cons, replay?, if_pos (present uid List.mem_cons_self),
        Option.bind_some, ih restNodup stillPresent, List.toFinset_cons, Finset.sdiff_insert,
        Finset.erase_sdiff_comm]

end Record

/-! ## Lives -/

/-- What happens to a bullet. -/
inductive Deed
  | created
  | updated
  | left
deriving DecidableEq, Repr

/-- What a record says about a bullet. -/
def Record.deed?
    (uid : Int) : Record → Option Deed
  | created other _ => if other = uid then some .created else none
  | updated other _ => if other = uid then some .updated else none
  | left other _ => if other = uid then some .left else none
  | frameRepeated _ | scheduleBuilt _ _ _ | finished _ => none

namespace Deed

/-- A life that may go on: the bullet appears, and then it is set anew any number of times. -/
def unfinishedLife : Language Deed :=
  {[created]} * {[updated]}∗

/-- A life from the appearance of the bullet until it leaves. -/
def wholeLife : Language Deed :=
  unfinishedLife * {[left]}

/-- What has happened to a bullet: whole lives, and one more that goes on if it is in flight. -/
def lives (inFlight : Bool) : Language Deed :=
  if inFlight then wholeLife∗ * unfinishedLife else wholeLife∗

theorem nil_mem_lives : [] ∈ lives false :=
  Language.nil_mem_kstar _

theorem append_created_mem_lives
    {deeds : List Deed}
    (lived : deeds ∈ lives false) :
    deeds ++ [created] ∈ lives true := by
  have begins : [created] ∈ unfinishedLife :=
    Language.append_mem_mul (a := [created]) (b := []) rfl (Language.nil_mem_kstar _)
  exact Language.append_mem_mul lived begins

theorem append_updated_mem_lives
    {deeds : List Deed}
    (lived : deeds ∈ lives true) :
    deeds ++ [updated] ∈ lives true := by
  have goesOn : wholeLife∗ * unfinishedLife * {[updated]} ≤ wholeLife∗ * unfinishedLife := by
    rw [mul_assoc, unfinishedLife, mul_assoc]
    exact mul_le_mul_right (mul_le_mul_right kstar_mul_le_kstar _) _
  exact goesOn (Language.append_mem_mul lived rfl)

theorem append_left_mem_lives
    {deeds : List Deed}
    (lived : deeds ∈ lives true) :
    deeds ++ [left] ∈ lives false := by
  have ends : wholeLife∗ * unfinishedLife * {[left]} ≤ wholeLife∗ := by
    rw [mul_assoc]
    exact kstar_mul_le_kstar
  exact ends (Language.append_mem_mul lived rfl)

end Deed

namespace Record

/-- A record that can be replayed continues the lives of every bullet. -/
theorem mem_lives_of_replay?
    {inFlight next : Finset Int}
    {record : Record}
    (replayed : record.replay? inFlight = some next)
    (uid : Int)
    {deeds : List Deed}
    (lived : deeds ∈ Deed.lives (decide (uid ∈ inFlight))) :
    deeds ++ (record.deed? uid).toList ∈ Deed.lives (decide (uid ∈ next)) := by
  cases record with
  | created other frame =>
      rw [replay?, Option.ite_none_left_eq_some, Option.some.injEq] at replayed
      obtain ⟨absent, rfl⟩ := replayed
      by_cases same : other = uid
      · subst same
        rw [decide_eq_false absent] at lived
        simpa [deed?] using Deed.append_created_mem_lives lived
      · simpa [deed?, same, Ne.symm same] using lived
  | updated other frame =>
      rw [replay?, Option.ite_none_right_eq_some, Option.some.injEq] at replayed
      obtain ⟨present, rfl⟩ := replayed
      by_cases same : other = uid
      · subst same
        rw [decide_eq_true present] at lived ⊢
        simpa [deed?] using Deed.append_updated_mem_lives lived
      · simpa [deed?, same] using lived
  | left other frame =>
      rw [replay?, Option.ite_none_right_eq_some, Option.some.injEq] at replayed
      obtain ⟨present, rfl⟩ := replayed
      by_cases same : other = uid
      · subst same
        rw [decide_eq_true present] at lived
        simpa [deed?] using Deed.append_left_mem_lives lived
      · simpa [deed?, same, Ne.symm same] using lived
  | finished ticks =>
      cases replayed
      simpa [deed?] using lived
  | frameRepeated frame => cases replayed
  | scheduleBuilt frames events lastFrame => cases replayed

/-- The records of a bullet in a journal that can be replayed are its lives. -/
theorem mem_lives_of_replayAll?
    {inFlight last : Finset Int}
    {records : List Record}
    (replayed : replayAll? inFlight records = some last)
    (uid : Int)
    {deeds : List Deed}
    (lived : deeds ∈ Deed.lives (decide (uid ∈ inFlight))) :
    deeds ++ records.filterMap (deed? uid) ∈ Deed.lives (decide (uid ∈ last)) := by
  induction records generalizing inFlight deeds with
  | nil =>
      cases replayed
      simpa using lived
  | cons record rest ih =>
      rw [replayAll?_cons, Option.bind_eq_some_iff] at replayed
      obtain ⟨next, first, later⟩ := replayed
      have continued := ih later (mem_lives_of_replay? first uid lived)
      rw [List.append_assoc] at continued
      cases deed : record.deed? uid <;> simpa [List.filterMap_cons, deed] using continued

end Record

end Barrage
