import Barrage.OrderedMap.Basic

/-!
# Look-ups in ordered maps

What each operation on an ordered map does to look-ups, and that look-ups
determine the map.
-/

namespace Barrage.OrderedMap

variable {κ ν : Type} [LT κ] [DecidableEq κ]

@[simp]
theorem get?_empty (key : κ) : (empty : OrderedMap κ ν).get? key = none := rfl

theorem lookup_insertEntry
    [DecidableLT κ]
    [StrictOrder κ]
    (key other : κ)
    (value : ν)
    (entries : List (κ × ν)) :
    lookup other (insertEntry key value entries) =
      if other = key then some value else lookup other entries := by
  induction entries with
  | nil => simp [insertEntry, lookup]
  | cons head rest ih =>
      simp only [insertEntry]
      split
      next before => simp [lookup]
      next notBefore =>
        split
        next after =>
          simp only [lookup, ih]
          by_cases atHead : other = head.1
          · have different : other ≠ key := by
              rintro rfl
              exact StrictOrder.irrefl other (atHead ▸ after)
            rw [if_pos atHead, if_neg different, if_pos atHead]
          · simp [atHead]
        next notAfter =>
          have same : key = head.1 := by
            rcases StrictOrder.trichotomy key head.1 with before | same | after
            · exact absurd before notBefore
            · exact same
            · exact absurd after notAfter
          simp only [lookup, same]
          by_cases atHead : other = head.1 <;> simp [atHead]

theorem get?_insert
    [DecidableLT κ]
    [StrictOrder κ]
    (map : OrderedMap κ ν)
    (key other : κ)
    (value : ν) :
    (map.insert key value).get? other = if other = key then some value else map.get? other :=
  lookup_insertEntry key other value map.entries

@[simp]
theorem get?_insert_self
    [DecidableLT κ]
    [StrictOrder κ]
    (map : OrderedMap κ ν)
    (key : κ)
    (value : ν) :
    (map.insert key value).get? key = some value := by
  simp [get?_insert]

theorem lookup_eq_some_iff
    [StrictOrder κ]
    {entries : List (κ × ν)}
    (ascending : entries.Pairwise fun earlier later => earlier.1 < later.1)
    {key : κ}
    {value : ν} :
    lookup key entries = some value ↔ (key, value) ∈ entries := by
  induction entries with
  | nil => simp [lookup]
  | cons head rest ih =>
      obtain ⟨below, restAscending⟩ := List.pairwise_cons.1 ascending
      simp only [lookup]
      split
      next atHead =>
        constructor
        · intro found
          simp_all [Prod.ext_iff]
        · intro member
          rcases List.mem_cons.1 member with same | later
          · rw [← same]
          · exact absurd (atHead ▸ below _ later) (StrictOrder.irrefl _)
      next notAtHead =>
        rw [ih restAscending]
        constructor
        · exact List.mem_cons_of_mem _
        · intro member
          rcases List.mem_cons.1 member with same | later
          · exact absurd (congrArg Prod.fst same) notAtHead
          · exact later

theorem get?_eq_some_iff
    [StrictOrder κ]
    {map : OrderedMap κ ν}
    {key : κ}
    {value : ν} :
    map.get? key = some value ↔ (key, value) ∈ map.entries :=
  lookup_eq_some_iff map.ascending

omit [LT κ] in
theorem lookup_eq_none_iff
    {entries : List (κ × ν)}
    {key : κ} :
    lookup key entries = none ↔ key ∉ entries.map (·.1) := by
  induction entries with
  | nil => simp [lookup]
  | cons head rest ih =>
      simp only [lookup]
      split <;> simp_all

theorem get?_eq_none_iff
    {map : OrderedMap κ ν}
    {key : κ} :
    map.get? key = none ↔ key ∉ map.keys :=
  lookup_eq_none_iff

/-- Two maps with the same look-ups are the same map. -/
theorem ext_get?
    [StrictOrder κ]
    {left right : OrderedMap κ ν}
    (lookups : ∀ key, left.get? key = right.get? key) :
    left = right := by
  obtain ⟨leftEntries, leftAscending⟩ := left
  obtain ⟨rightEntries, rightAscending⟩ := right
  simp only [get?] at lookups
  ext1
  simp only
  induction leftEntries generalizing rightEntries with
  | nil =>
      cases rightEntries with
      | nil => rfl
      | cons head rest => simpa [lookup] using lookups head.1
  | cons head rest ih =>
      cases rightEntries with
      | nil => simpa [lookup] using lookups head.1
      | cons head' rest' =>
          obtain ⟨below, restAscending⟩ := List.pairwise_cons.1 leftAscending
          obtain ⟨below', restAscending'⟩ := List.pairwise_cons.1 rightAscending
          have inRight : (head.1, head.2) ∈ head' :: rest' :=
            (lookup_eq_some_iff rightAscending).1 (by rw [← lookups]; simp [lookup])
          have inLeft : (head'.1, head'.2) ∈ head :: rest :=
            (lookup_eq_some_iff leftAscending).1 (by rw [lookups]; simp [lookup])
          have heads : head = head' := by
            rcases List.mem_cons.1 inRight with same | later
            · exact same
            · rcases List.mem_cons.1 inLeft with same | later'
              · exact same.symm
              · exact absurd (StrictOrder.trans (below _ later') (below' _ later))
                  (StrictOrder.irrefl _)
          subst heads
          congr 1
          refine ih restAscending rest' restAscending' fun key => ?_
          have here := lookups key
          simp only [lookup] at here
          split at here
          next atHead =>
            have absent : ∀ {entries : List (κ × ν)},
                (∀ entry ∈ entries, head.1 < entry.1) → lookup key entries = none := by
              intro entries above
              refine lookup_eq_none_iff.2 fun member => ?_
              obtain ⟨entry, inside, same⟩ := List.mem_map.1 member
              have after := above entry inside
              rw [same, atHead] at after
              exact StrictOrder.irrefl head.1 after
            rw [absent below, absent below']
          next => exact here

end Barrage.OrderedMap
