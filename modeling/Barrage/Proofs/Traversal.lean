import Mathlib.Data.List.Forall2

/-!
# Going through lists

When a computation in `Except` comes to a result, and when to a fault: a
sequence of two, one whose fault is restated, and one that goes through a list
item by item.  The fault is that of the first item that has one.  What every step
of a fold keeps holds after it (`foldlM_preserves`).  A computation in `Option`
comes to a result as well, but it has no faults to tell apart.  Where of several
items the last one counts, `getLast?_filter_cons` finds it from the end of the
list.
-/

namespace Barrage.Traversal

variable {ε δ α β : Type}

theorem bind_eq_ok_iff
    {computation : Except ε α}
    {next : α → Except ε β}
    {result : β} :
    (computation >>= next) = .ok result ↔
      ∃ value, computation = .ok value ∧ next value = .ok result := by
  cases computation <;> simp [bind, Except.bind]

theorem bind_eq_error_iff
    {computation : Except ε α}
    {next : α → Except ε β}
    {fault : ε} :
    (computation >>= next) = .error fault ↔
      computation = .error fault ∨
        ∃ value, computation = .ok value ∧ next value = .error fault := by
  cases computation <;> simp [bind, Except.bind]

/-- A computation with one possible fault has it exactly if there is no result. -/
theorem eq_error_iff_of_only_fault
    {computation : Except ε α}
    {cause fault : ε}
    (only : ∀ other, computation = .error other → other = cause) :
    computation = .error fault ↔ (∀ result, computation ≠ .ok result) ∧ fault = cause := by
  constructor
  · intro rejected
    refine ⟨fun result accepted => ?_, only fault rejected⟩
    rw [accepted] at rejected
    cases rejected
  · rintro ⟨noResult, rfl⟩
    cases outcome : computation with
    | ok result => exact absurd outcome (noResult result)
    | error other => rw [only other outcome]

theorem mapError_eq_ok_iff
    {computation : Except ε α}
    {restate : ε → δ}
    {result : α} :
    computation.mapError restate = .ok result ↔ computation = .ok result := by
  cases computation with
  | error fault =>
      constructor
      · intro impossible
        cases impossible
      · intro impossible
        cases impossible
  | ok value =>
      constructor
      · intro equal
        cases equal
        rfl
      · intro equal
        cases equal
        rfl

theorem mapError_eq_error_iff
    {computation : Except ε α}
    {restate : ε → δ}
    {fault : δ} :
    computation.mapError restate = .error fault ↔
      ∃ cause, computation = .error cause ∧ restate cause = fault := by
  cases computation with
  | error cause =>
      constructor
      · intro equal
        cases equal
        exact ⟨cause, rfl, rfl⟩
      · rintro ⟨other, equal, rfl⟩
        cases equal
        rfl
  | ok value =>
      constructor
      · intro impossible
        cases impossible
      · rintro ⟨cause, impossible, -⟩
        cases impossible

theorem mapError_mapError
    {ζ : Type}
    (computation : Except ε α)
    (restate : ε → δ)
    (again : δ → ζ) :
    (computation.mapError restate).mapError again =
      computation.mapError fun fault => again (restate fault) := by
  cases computation <;> rfl

theorem map_eq_ok_iff
    {computation : Except ε α}
    {change : α → β}
    {result : β} :
    computation.map change = .ok result ↔
      ∃ value, computation = .ok value ∧ change value = result := by
  cases computation <;> simp [Except.map]

/-- Going through a list succeeds when every item does, and collects the results in order. -/
theorem mapM_eq_ok_iff
    {visit : α → Except ε β}
    {items : List α}
    {results : List β} :
    items.mapM visit = .ok results ↔
      List.Forall₂ (fun item result => visit item = .ok result) items results := by
  induction items generalizing results with
  | nil =>
      rw [List.mapM_nil, List.forall₂_nil_left_iff]
      constructor
      · intro equal
        cases equal
        rfl
      · rintro rfl
        rfl
  | cons item rest ih =>
      rw [List.mapM_cons, bind_eq_ok_iff, List.forall₂_cons_left_iff]
      constructor
      · rintro ⟨result, visited, collected⟩
        obtain ⟨later, laterVisited, equal⟩ := bind_eq_ok_iff.mp collected
        cases equal
        exact ⟨result, later, visited, ih.mp laterVisited, rfl⟩
      · rintro ⟨result, later, visited, laterVisited, rfl⟩
        exact
          ⟨result, visited,
            bind_eq_ok_iff.mpr ⟨later, ih.mpr laterVisited, rfl⟩⟩

/-- The same where a visit gives no reason for its failure. -/
theorem mapM_eq_some_iff
    {visit : α → Option β}
    {items : List α}
    {results : List β} :
    items.mapM visit = some results ↔
      List.Forall₂ (fun item result => visit item = some result) items results := by
  induction items generalizing results with
  | nil => simp [eq_comm]
  | cons item rest ih =>
      simp only [List.mapM_cons, Option.bind_eq_bind, Option.bind_eq_some_iff, Option.pure_def,
        Option.some.injEq, List.forall₂_cons_left_iff, ← ih]
      constructor
      · rintro ⟨result, visited, later, laterVisited, rfl⟩
        exact ⟨result, later, visited, laterVisited, rfl⟩
      · rintro ⟨result, later, visited, laterVisited, rfl⟩
        exact ⟨result, visited, later, laterVisited, rfl⟩

/-- A fold fails at the first item that the state before it does not take. -/
theorem foldlM_eq_error_iff
    {σ : Type}
    {step : σ → α → Except ε σ}
    {items : List α}
    {start : σ}
    {fault : ε} :
    items.foldlM step start = .error fault ↔
      ∃ before item after state,
        items = before ++ item :: after ∧
          before.foldlM step start = .ok state ∧ step state item = .error fault := by
  constructor
  · intro rejected
    induction items generalizing start with
    | nil => cases rejected
    | cons first rest ih =>
        rw [List.foldlM_cons] at rejected
        rcases bind_eq_error_iff.mp rejected with rejected | ⟨next, accepted, rejected⟩
        · exact ⟨[], first, rest, start, rfl, rfl, rejected⟩
        · obtain ⟨before, item, after, state, rfl, ran, rejected⟩ := ih rejected
          refine ⟨first :: before, item, after, state, rfl, ?_, rejected⟩
          rw [List.foldlM_cons]
          exact bind_eq_ok_iff.mpr ⟨next, accepted, ran⟩
  · rintro ⟨before, item, after, state, rfl, ran, rejected⟩
    rw [List.foldlM_append, ran]
    change (item :: after).foldlM step state = .error fault
    rw [List.foldlM_cons]
    exact bind_eq_error_iff.mpr (.inl rejected)

/-- What every step of a fold keeps holds after the fold, with the items that were taken. -/
theorem foldlM_preserves
    {σ : Type}
    {step : σ → α → Except ε σ}
    {invariant : σ → List α → Prop}
    (kept :
      ∀ state next taken item,
        invariant state taken → step state item = .ok next → invariant next (taken ++ [item]))
    (taken : List α)
    {items : List α}
    {start last : σ}
    (holds : invariant start taken)
    (ran : items.foldlM step start = .ok last) :
    invariant last (taken ++ items) := by
  induction items generalizing start taken with
  | nil =>
      cases ran
      rwa [List.append_nil]
  | cons item rest ih =>
      rw [List.foldlM_cons] at ran
      obtain ⟨next, stepped, ran⟩ := bind_eq_ok_iff.mp ran
      rw [List.append_cons]
      exact ih _ (kept start next taken item holds stepped) ran

/-- A relation that does not look at positions can be asked of the items alone. -/
theorem forall₂_zipIdx_iff
    {related : α → β → Prop}
    {items : List α}
    {results : List β}
    (start : Nat) :
    List.Forall₂ (fun item result => related item.1 result) (items.zipIdx start) results ↔
      List.Forall₂ related items results := by
  rw [← List.forall₂_map_left_iff (R := related) (f := Prod.fst), List.zipIdx_map_fst]

/-- What is done with each item may depend on its position, but not what it comes to. -/
theorem mapM_zipIdx_eq_ok_iff
    {visit : α × Nat → Except ε β}
    {related : α → β → Prop}
    (each : ∀ item index result, visit (item, index) = .ok result ↔ related item result)
    {items : List α}
    {results : List β} :
    items.zipIdx.mapM visit = .ok results ↔ List.Forall₂ related items results := by
  have samePlace : (fun item result => visit item = .ok result) =
      fun (item : α × Nat) result => related item.1 result := by
    funext item result
    exact propext (each item.1 item.2 result)
  rw [mapM_eq_ok_iff, samePlace, forall₂_zipIdx_iff]

/-- Items that are visited alike can stand for each other. -/
theorem mapM_zipIdx_congr
    {visit : α × Nat → Except ε β}
    {items others : List α}
    (alike :
      List.Forall₂ (fun item other => ∀ index, visit (item, index) = visit (other, index))
        items others)
    (start : Nat) :
    (items.zipIdx start).mapM visit = (others.zipIdx start).mapM visit := by
  induction alike generalizing start with
  | nil => rfl
  | cons same _ ih =>
      rw [List.zipIdx_cons, List.zipIdx_cons, List.mapM_cons, List.mapM_cons, same start,
        ih (start + 1)]

/-- Items that do the same to every state can stand for each other. -/
theorem foldlM_congr
    {σ : Type}
    {step : σ → α → Except ε σ}
    {items others : List α}
    (alike :
      List.Forall₂ (fun item other => ∀ state, step state item = step state other)
        items others)
    (start : σ) :
    items.foldlM step start = others.foldlM step start := by
  induction alike generalizing start with
  | nil => rfl
  | cons same _ ih =>
      rw [List.foldlM_cons, List.foldlM_cons, same start]
      exact congrArg _ (funext ih)

/-- The last item that passes a test is among the later ones, or it is the first. -/
theorem getLast?_filter_cons
    (test : α → Bool)
    (item : α)
    (rest : List α) :
    ((item :: rest).filter test).getLast? =
      ((rest.filter test).getLast?).or (if test item then some item else none) := by
  rw [List.filter_cons]
  split
  · rw [List.getLast?_cons]
    cases (rest.filter test).getLast? <;> rfl
  · rw [Option.or_none]

end Barrage.Traversal
