import Barrage.OrderedMap.Lemmas
import Mathlib.Data.List.Basic

/-!
# Keys of ordered maps

The keys of an ordered map are those at which something is found.  They are
listed once each, and the last of the list is the greatest.  Changing values
and dropping entries is described by what it does to look-ups.
-/

namespace Barrage.OrderedMap

variable {κ ν : Type} [LT κ] [DecidableEq κ]

theorem mem_keys_iff
    {map : OrderedMap κ ν}
    {key : κ} :
    key ∈ map.keys ↔ map.get? key ≠ none := by
  rw [Ne, get?_eq_none_iff, not_not]

omit [DecidableEq κ] in
theorem keys_ascending (map : OrderedMap κ ν) : map.keys.Pairwise (· < ·) :=
  List.pairwise_map.mpr map.ascending

omit [DecidableEq κ] in
theorem keys_nodup
    [StrictOrder κ]
    (map : OrderedMap κ ν) :
    map.keys.Nodup := by
  refine map.keys_ascending.imp ?_
  rintro first second before rfl
  exact StrictOrder.irrefl first before

omit [DecidableEq κ] in
theorem lastKey?_eq_getLast? (map : OrderedMap κ ν) : map.lastKey? = map.keys.getLast? := by
  simp [lastKey?, keys]

omit [DecidableEq κ] in
theorem lastKey?_mem_keys
    {map : OrderedMap κ ν}
    {last : κ}
    (isLast : map.lastKey? = some last) :
    last ∈ map.keys := by
  rw [lastKey?_eq_getLast?] at isLast
  exact List.mem_of_getLast? isLast

omit [DecidableEq κ] in
/-- No key comes after the last one. -/
theorem not_lastKey?_lt
    [StrictOrder κ]
    {map : OrderedMap κ ν}
    {last key : κ}
    (isLast : map.lastKey? = some last)
    (member : key ∈ map.keys) :
    ¬ last < key := by
  intro after
  rw [lastKey?_eq_getLast?] at isLast
  obtain ⟨front, split⟩ := List.getLast?_eq_some_iff.mp isLast
  have ascending := map.keys_ascending
  rw [split, List.pairwise_append] at ascending
  rw [split, List.mem_append, List.mem_singleton] at member
  rcases member with inFront | rfl
  · exact StrictOrder.irrefl key
      (StrictOrder.trans (ascending.2.2 key inFront last (by simp)) after)
  · exact StrictOrder.irrefl key after

omit [DecidableEq κ] in
/-- The greatest key is the last one. -/
theorem max?_keys (map : OrderedMap Nat ν) : map.keys.max? = map.lastKey? := by
  cases isLast : map.lastKey? with
  | none =>
      rw [lastKey?_eq_getLast?, List.getLast?_eq_none_iff] at isLast
      rw [isLast, List.max?_nil]
  | some last =>
      rw [List.max?_eq_some_iff]
      constructor
      · exact lastKey?_mem_keys isLast
      · exact fun key member => Nat.le_of_not_lt (not_lastKey?_lt isLast member)

omit [LT κ] in
theorem lookup_map
    (change : ν → ν)
    (key : κ)
    (entries : List (κ × ν)) :
    lookup key (entries.map fun entry => (entry.1, change entry.2)) =
      (lookup key entries).map change := by
  induction entries with
  | nil => rfl
  | cons head rest ih =>
      simp only [List.map_cons, lookup]
      split
      · rfl
      · exact ih

theorem get?_mapValues
    (map : OrderedMap κ ν)
    (change : ν → ν)
    (key : κ) :
    (map.mapValues change).get? key = (map.get? key).map change :=
  lookup_map change key map.entries

theorem get?_filterValues
    [StrictOrder κ]
    (map : OrderedMap κ ν)
    (test : ν → Bool)
    (key : κ) :
    (map.filterValues test).get? key = (map.get? key).filter test := by
  ext value
  rw [get?_eq_some_iff, Option.filter_eq_some_iff, get?_eq_some_iff]
  simp [filterValues]

/-! ## Weighing values -/

omit [DecidableEq κ] in
/-- All values together, by some weight of a value. -/
def total
    (weight : ν → Nat)
    (map : OrderedMap κ ν) : Nat :=
  map.values.foldr (fun value rest => weight value + rest) 0

theorem lookup_eq_none_of_lt
    [StrictOrder κ]
    {key : κ}
    {entries : List (κ × ν)}
    (below : ∀ entry ∈ entries, key < entry.1) :
    lookup key entries = none := by
  refine lookup_eq_none_iff.mpr fun member => ?_
  obtain ⟨entry, inside, same⟩ := List.mem_map.mp member
  exact StrictOrder.irrefl key (same ▸ below entry inside)

/-- What is replaced goes out and what is inserted comes in. -/
theorem foldr_insertEntry
    [DecidableLT κ]
    [StrictOrder κ]
    (weight : ν → Nat)
    (key : κ)
    (value : ν)
    {entries : List (κ × ν)}
    (ascending : entries.Pairwise fun earlier later => earlier.1 < later.1) :
    (insertEntry key value entries).foldr (fun entry rest => weight entry.2 + rest) 0 +
        ((lookup key entries).map weight).getD 0 =
      entries.foldr (fun entry rest => weight entry.2 + rest) 0 + weight value := by
  induction entries with
  | nil => simp [insertEntry, lookup]
  | cons head rest ih =>
      obtain ⟨below, restAscending⟩ := List.pairwise_cons.mp ascending
      simp only [insertEntry]
      split
      next before =>
        have absent : lookup key (head :: rest) = none := by
          refine lookup_eq_none_of_lt fun entry member => ?_
          rcases List.mem_cons.mp member with rfl | later
          · exact before
          · exact StrictOrder.trans before (below entry later)
        rw [absent]
        simp only [List.foldr_cons, Option.map_none, Option.getD_none]
        omega
      next notBefore =>
        split
        next after =>
          have different : key ≠ head.1 := by
            rintro rfl
            exact StrictOrder.irrefl _ after
          have conserved := ih restAscending
          simp only [lookup, if_neg different, List.foldr_cons]
          omega
        next notAfter =>
          have same : key = head.1 := by
            rcases StrictOrder.trichotomy key head.1 with before | same | after
            · exact absurd before notBefore
            · exact same
            · exact absurd after notAfter
          simp only [lookup, if_pos same, List.foldr_cons, Option.map_some, Option.getD_some]
          omega

theorem total_insert
    [DecidableLT κ]
    [StrictOrder κ]
    (weight : ν → Nat)
    (map : OrderedMap κ ν)
    (key : κ)
    (value : ν) :
    (map.insert key value).total weight + ((map.get? key).map weight).getD 0 =
      map.total weight + weight value := by
  rw [total, total, values, values, List.foldr_map, List.foldr_map]
  exact foldr_insertEntry weight key value map.ascending

omit [DecidableEq κ] in
/-- Where every value weighs the same, the weight is that of the keys. -/
theorem size_eq_total (map : OrderedMap κ ν) : map.size = map.total fun _ => 1 := by
  rw [size, total, values, List.foldr_map]
  induction map.entries with
  | nil => rfl
  | cons entry rest ih => rw [List.length_cons, List.foldr_cons, ← ih, Nat.add_comm]

theorem isEmpty_iff_get?
    {map : OrderedMap κ ν} :
    map.isEmpty = true ↔ ∀ key, map.get? key = none := by
  constructor
  · intro isEmpty key
    rw [get?_eq_none_iff, keys, List.isEmpty_iff.mp isEmpty]
    simp
  · intro nothing
    rw [isEmpty, List.isEmpty_iff]
    refine List.eq_nil_iff_forall_not_mem.mpr fun entry member => ?_
    exact get?_eq_none_iff.mp (nothing entry.1) (List.mem_map_of_mem member)

end Barrage.OrderedMap
