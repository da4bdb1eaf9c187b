import Mathlib.Data.List.Basic

/-!
# Checked computations

A difference of natural numbers is meant where the second is not the greater
one, and a part of a list where the list is long enough.  A checked computation
asks for this at every such place.  Besides a result and a fault it has a third
outcome: it breaks off where an operation is used outside of its domain.

A checked computation that never breaks off is `sound`: it is one in `Except`,
which has no such outcome.  Sound computations are closed under everything that
computations are put together with, and under a fold if the states that are
reached keep an invariant under which each step is sound (`foldlM_eq_sound`).
-/

namespace Barrage

/-- A computation that may break off, besides coming to a result or to a fault. -/
abbrev Checked (ε : Type) : Type → Type :=
  ExceptT ε Option

namespace Checked

variable {ε δ α β : Type}

/-- The computation that does not break off, and does the same. -/
def sound (computation : Except ε α) : Checked ε α :=
  ExceptT.mk (some computation)

/-- The result of an operation.  The computation breaks off if there is none. -/
def get (result : Option α) : Checked ε α :=
  ExceptT.mk (result.map .ok)

/-- Restate the fault.  The computation breaks off if that cannot be done. -/
def restate
    (computation : Checked ε α)
    (restatement : ε → Option δ) : Checked δ α :=
  ExceptT.mk <|
    computation.run.bind fun
      | .ok value => some (.ok value)
      | .error fault => (restatement fault).map .error

/-! ## Sound computations -/

/-- An operation that is meant for what it is applied to has its result. -/
theorem get_some_bind
    (value : α)
    (next : α → Checked ε β) :
    get (some value) >>= next = next value := rfl

/-- One sound computation after the other. -/
theorem bind_eq_sound
    {first : Checked ε α}
    {plain : Except ε α}
    {next : α → Checked ε β}
    {goOn : α → Except ε β}
    (isSound : first = sound plain)
    (later : ∀ value, next value = sound (goOn value)) :
    first >>= next = sound (plain >>= goOn) := by
  cases isSound
  cases plain with
  | error fault => rfl
  | ok value => exact later value

theorem restate_sound
    {restatement : ε → Option δ}
    {inWords : ε → δ}
    (computation : Except ε α)
    (stated : ∀ fault, restatement fault = some (inWords fault)) :
    (sound computation).restate restatement = sound (computation.mapError inWords) := by
  cases computation with
  | ok value => rfl
  | error fault =>
      change (restatement fault).map Except.error = _
      rw [stated fault]
      rfl

/-- Going through a list is sound if every visit is. -/
theorem mapM_eq_sound
    {visit : α → Checked ε β}
    {plain : α → Except ε β}
    (each : ∀ item, visit item = sound (plain item))
    (items : List α) :
    items.mapM visit = sound (items.mapM plain) := by
  induction items with
  | nil => rfl
  | cons item rest ih =>
      rw [List.mapM_cons, List.mapM_cons]
      exact bind_eq_sound (each item) fun _ => bind_eq_sound ih fun _ => rfl

/-- A fold is sound if each step is, from all states that can be reached. -/
theorem foldlM_eq_sound
    {σ : Type}
    {move : σ → α → Checked ε σ}
    {step : σ → α → Except ε σ}
    (invariant : σ → Prop)
    (kept :
      ∀ state item next, invariant state → step state item = .ok next → invariant next)
    {items : List α}
    (each : ∀ state, invariant state → ∀ item ∈ items, move state item = sound (step state item))
    {start : σ}
    (holds : invariant start) :
    items.foldlM move start = sound (items.foldlM step start) := by
  induction items generalizing start with
  | nil => rfl
  | cons item rest ih =>
      rw [List.foldlM_cons, List.foldlM_cons, each start holds item List.mem_cons_self]
      cases stepped : step start item with
      | error fault => rfl
      | ok next =>
          have later := fun state reached other member =>
            each state reached other (List.mem_cons_of_mem item member)
          exact ih later (kept start item next holds stepped)

/-! ## Parts of lists -/

/-- The items from an index on.  A list has such a part if it is long enough. -/
def itemsFrom?
    (items : List α)
    (start : Nat) : Option (List α) :=
  if start ≤ items.length then some (items.drop start) else none

theorem itemsFrom?_eq
    {items : List α}
    {start : Nat}
    (inside : start ≤ items.length) :
    itemsFrom? items start = some (items.drop start) :=
  if_pos inside

end Checked

end Barrage
