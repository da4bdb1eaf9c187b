import Barrage.Document.Lexeme
import Mathlib.Data.List.TakeWhile

/-!
# What encloses the next lexeme

Between two lexemes some lists and quote markers are open: a list up to the
parenthesis that matches its own, a marker up to the end of the expression
behind it.  Which of them are can be told from the lexemes before the place,
without reading them one after the other.  An opening parenthesis is unmatched
if no beginning of what follows it has more closing than opening parentheses.
A marker is open if nothing follows it, or if what follows it begins with
something that is open.

`enclosing` collects what is open.  Each lexeme changes it in one of three ways
(`enclosing_begin`, `enclosing_leaf`, `enclosing_closing`).
-/

namespace Barrage.Document

/-! ## Parentheses without a match -/

/--
No opening parenthesis in front of these lexemes is matched by one of them:
none of their beginnings has more closing than opening parentheses.
-/
def LeavesOpen (lexemes : List Lexeme) : Prop :=
  ∀ part, part <+: lexemes → part.count .closing ≤ part.count .opening

/-- The number of closing parentheses that match no opening one among the lexemes. -/
def unmatchedClosings : List Lexeme → Nat
  | [] => 0
  | .opening :: rest => unmatchedClosings rest - 1
  | .closing :: rest => unmatchedClosings rest + 1
  | .marker :: rest => unmatchedClosings rest
  | .literal _ :: rest => unmatchedClosings rest
  | .atom _ :: rest => unmatchedClosings rest

theorem forall_prefix_cons_iff
    {Item : Type}
    {property : List Item → Prop}
    {first : Item}
    {rest : List Item} :
    (∀ part, part <+: first :: rest → property part) ↔
      property [] ∧ ∀ part, part <+: rest → property (first :: part) := by
  constructor
  · intro holds
    refine ⟨holds [] List.nil_prefix, fun part isPrefix => holds _ ?_⟩
    exact List.prefix_cons_inj first |>.mpr isPrefix
  · rintro ⟨empty, later⟩ part isPrefix
    rcases List.prefix_cons_iff.mp isPrefix with rfl | ⟨inner, rfl, innerPrefix⟩
    · exact empty
    · exact later inner innerPrefix

/-- Closing parentheses in excess are those that have no match. -/
theorem unmatchedClosings_le_iff
    {lexemes : List Lexeme}
    {excess : Nat} :
    unmatchedClosings lexemes ≤ excess ↔
      ∀ part, part <+: lexemes → part.count .closing ≤ part.count .opening + excess := by
  induction lexemes generalizing excess with
  | nil => simp [unmatchedClosings]
  | cons lexeme rest ih =>
      rw [forall_prefix_cons_iff]
      cases lexeme with
      | opening =>
          have shift (closings openings : Nat) :
              closings ≤ openings + (excess + 1) ↔ closings ≤ openings + 1 + excess := by omega
          simp [unmatchedClosings, ih, shift]
      | closing =>
          cases excess with
          | zero =>
              have positive : ¬ unmatchedClosings rest + 1 ≤ 0 := Nat.not_succ_le_zero _
              refine iff_of_false positive fun ⟨_, later⟩ => ?_
              exact absurd (later [] List.nil_prefix) (by decide)
          | succ excess =>
              have shift (closings openings : Nat) :
                  closings + 1 ≤ openings + (excess + 1) ↔ closings ≤ openings + excess := by omega
              simp [unmatchedClosings, ih, shift]
      | marker | literal _ | atom _ => simp [unmatchedClosings, ih]

theorem leavesOpen_iff
    {lexemes : List Lexeme} :
    LeavesOpen lexemes ↔ unmatchedClosings lexemes = 0 := by
  rw [← Nat.le_zero, unmatchedClosings_le_iff]
  rfl

instance (lexemes : List Lexeme) : Decidable (LeavesOpen lexemes) :=
  decidable_of_iff _ leavesOpen_iff.symm

/-- Anything but a closing parenthesis at the end has no part in it. -/
theorem unmatchedClosings_concat_of_ne
    (lexemes : List Lexeme)
    {last : Lexeme}
    (notClosing : last ≠ .closing) :
    unmatchedClosings (lexemes ++ [last]) = unmatchedClosings lexemes := by
  induction lexemes with
  | nil => cases last <;> first | rfl | exact absurd rfl notClosing
  | cons first rest ih => cases first <;> simp [unmatchedClosings, ih]

theorem unmatchedClosings_le_concat
    (lexemes : List Lexeme)
    (last : Lexeme) :
    unmatchedClosings lexemes ≤ unmatchedClosings (lexemes ++ [last]) := by
  induction lexemes with
  | nil => exact Nat.zero_le _
  | cons first rest ih => cases first <;> simp [unmatchedClosings] <;> omega

/-! ## What stays open -/

/-- The first of these lexemes begins a list or a quoted expression that they do not complete. -/
def StaysOpen : List Lexeme → Prop
  | .opening :: rest => LeavesOpen rest
  | .marker :: rest => rest = [] ∨ StaysOpen rest
  | _ => False

instance decidableStaysOpen : (lexemes : List Lexeme) → Decidable (StaysOpen lexemes)
  | .opening :: rest => inferInstanceAs (Decidable (LeavesOpen rest))
  | .marker :: rest =>
      have := decidableStaysOpen rest
      inferInstanceAs (Decidable (rest = [] ∨ StaysOpen rest))
  | [] | .closing :: _ | .literal _ :: _ | .atom _ :: _ => .isFalse id

theorem not_staysOpen_cons
    {first : Lexeme}
    {rest : List Lexeme}
    (notOpening : first ≠ .opening)
    (notMarker : first ≠ .marker) :
    ¬ StaysOpen (first :: rest) := by
  cases first with
  | opening => exact absurd rfl notOpening
  | marker => exact absurd rfl notMarker
  | closing | literal _ | atom _ => exact id

theorem staysOpen_marker_iff
    {lexemes : List Lexeme}
    (nonempty : lexemes ≠ []) :
    StaysOpen (.marker :: lexemes) ↔ StaysOpen lexemes := by
  rw [StaysOpen, or_iff_right nonempty]

/-- What more lexemes leave open was open before. -/
theorem StaysOpen.of_concat
    {lexemes : List Lexeme}
    {last : Lexeme}
    (nonempty : lexemes ≠ [])
    (longer : StaysOpen (lexemes ++ [last])) :
    StaysOpen lexemes := by
  induction lexemes with
  | nil => exact absurd rfl nonempty
  | cons first rest ih =>
      cases first with
      | opening =>
          have none : unmatchedClosings (rest ++ [last]) = 0 := leavesOpen_iff.mp longer
          have fewer := unmatchedClosings_le_concat rest last
          exact leavesOpen_iff.mpr (by omega)
      | marker =>
          by_cases alone : rest = []
          · exact .inl alone
          · rw [List.cons_append, staysOpen_marker_iff (by simp)] at longer
            exact .inr (ih alone longer)
      | closing | literal _ | atom _ => exact longer

/-- A list or marker that begins closes nothing. -/
theorem staysOpen_concat_iff
    {lexemes : List Lexeme}
    (nonempty : lexemes ≠ [])
    {last : Lexeme}
    (begins : last = .opening ∨ last = .marker) :
    StaysOpen (lexemes ++ [last]) ↔ StaysOpen lexemes := by
  have alone : StaysOpen [last] := by
    rcases begins with rfl | rfl <;> decide
  have notClosing : last ≠ .closing := by
    rcases begins with rfl | rfl <;> exact Lexeme.noConfusion
  induction lexemes with
  | nil => exact absurd rfl nonempty
  | cons first rest ih =>
      cases first with
      | opening =>
          rw [List.cons_append, StaysOpen, StaysOpen, leavesOpen_iff, leavesOpen_iff,
            unmatchedClosings_concat_of_ne rest notClosing]
      | marker =>
          rw [List.cons_append, staysOpen_marker_iff (by simp)]
          cases rest with
          | nil => exact iff_of_true alone (.inl rfl)
          | cons second rest =>
              rw [staysOpen_marker_iff (List.cons_ne_nil _ _)]
              exact ih (List.cons_ne_nil _ _)
      | closing | literal _ | atom _ => exact Iff.rfl

/-! ## What encloses the next lexeme -/

/-- The offset of an opening parenthesis. -/
def PlacedLexeme.opening? (placed : PlacedLexeme) : Option Nat :=
  if placed.lexeme = .opening then some placed.offset else none

/-- The lists and markers that are open behind some lexemes, innermost first. -/
def enclosing : List PlacedLexeme → List PlacedLexeme
  | [] => []
  | placed :: rest =>
      if StaysOpen ((placed :: rest).map (·.lexeme)) then enclosing rest ++ [placed]
      else enclosing rest

/-- The offset of the last opening parenthesis without a match. -/
def lastUnmatched? (lexemes : List PlacedLexeme) : Option Nat :=
  (enclosing lexemes).findSome? (·.opening?)

/-- A list or marker that begins encloses what comes next. -/
theorem enclosing_begin
    (read : List PlacedLexeme)
    {last : PlacedLexeme}
    (begins : last.lexeme = .opening ∨ last.lexeme = .marker) :
    enclosing (read ++ [last]) = last :: enclosing read := by
  have alone : StaysOpen [last.lexeme] := by
    rcases begins with isOpening | isMarker
    · rw [isOpening]
      decide
    · rw [isMarker]
      decide
  induction read with
  | nil => exact if_pos alone
  | cons first rest ih =>
      have same : StaysOpen ((first :: (rest ++ [last])).map (·.lexeme)) ↔
          StaysOpen ((first :: rest).map (·.lexeme)) := by
        have nonempty : (first :: rest).map (·.lexeme) ≠ [] := List.cons_ne_nil _ _
        simpa using staysOpen_concat_iff nonempty begins
      rw [List.cons_append, enclosing, enclosing, ih]
      simp only [same]
      split <;> rfl

theorem enclosing_cons_of_staysOpen
    {first : PlacedLexeme}
    {rest : List PlacedLexeme}
    (stays : StaysOpen ((first :: rest).map (·.lexeme))) :
    enclosing (first :: rest) = enclosing rest ++ [first] :=
  if_pos stays

theorem enclosing_cons_of_not_staysOpen
    {first : PlacedLexeme}
    {rest : List PlacedLexeme}
    (closed : ¬ StaysOpen ((first :: rest).map (·.lexeme))) :
    enclosing (first :: rest) = enclosing rest :=
  if_neg closed

theorem enclosing_ne_nil
    {read : List PlacedLexeme}
    (stays : StaysOpen (read.map (·.lexeme))) :
    enclosing read ≠ [] := by
  cases read with
  | nil => exact absurd stays id
  | cons first rest =>
      rw [enclosing_cons_of_staysOpen stays]
      exact List.append_ne_nil_of_right_ne_nil _ (List.cons_ne_nil _ _)

/-! ## Markers and lists that are completed -/

/-- What is still open when an expression ends behind the innermost markers. -/
def withoutMarkers (stack : List PlacedLexeme) : List PlacedLexeme :=
  stack.dropWhile fun placed => placed.opening?.isNone

/-- What is still open when the innermost list ends, which is an expression itself. -/
def withoutList (stack : List PlacedLexeme) : List PlacedLexeme :=
  withoutMarkers (withoutMarkers stack).tail

theorem withoutMarkers_eq_nil_iff
    {stack : List PlacedLexeme} :
    withoutMarkers stack = [] ↔ stack.findSome? (·.opening?) = none := by
  simp [withoutMarkers, List.dropWhile_eq_nil_iff, List.findSome?_eq_none_iff]

theorem withoutMarkers_concat_of_ne_nil
    {stack : List PlacedLexeme}
    (left : withoutMarkers stack ≠ [])
    (outermost : PlacedLexeme) :
    withoutMarkers (stack ++ [outermost]) = withoutMarkers stack ++ [outermost] := by
  rw [withoutMarkers, List.dropWhile_append, if_neg]
  · rfl
  · rwa [List.isEmpty_iff]

theorem withoutMarkers_concat_of_eq_nil
    {stack : List PlacedLexeme}
    (nothing : withoutMarkers stack = [])
    (outermost : PlacedLexeme) :
    withoutMarkers (stack ++ [outermost]) = withoutMarkers [outermost] := by
  rw [withoutMarkers, List.dropWhile_append, if_pos]
  · rfl
  · rwa [List.isEmpty_iff]

theorem withoutMarkers_concat_of_opening
    (stack : List PlacedLexeme)
    {outermost : PlacedLexeme}
    {offset : Nat}
    (isOpening : outermost.opening? = some offset) :
    withoutMarkers (stack ++ [outermost]) = withoutMarkers stack ++ [outermost] := by
  by_cases left : withoutMarkers stack = []
  · rw [withoutMarkers_concat_of_eq_nil left, left, withoutMarkers,
      List.dropWhile_cons_of_neg (by simp [isOpening])]
    rfl
  · exact withoutMarkers_concat_of_ne_nil left outermost

/-- The stack is cut off at its innermost end, and a marker does not stop this. -/
structure CutsOff (cut : List PlacedLexeme → List PlacedLexeme) : Prop where
  keeps :
    ∀ stack outermost, cut stack ≠ [] → cut (stack ++ [outermost]) = cut stack ++ [outermost]
  drops :
    ∀ stack outermost, outermost.opening? = none → cut stack = [] → cut (stack ++ [outermost]) = []

theorem cutsOff_withoutMarkers : CutsOff withoutMarkers where
  keeps := fun _ outermost left => withoutMarkers_concat_of_ne_nil left outermost
  drops := by
    intro stack outermost isMarker nothing
    rw [withoutMarkers_concat_of_eq_nil nothing, withoutMarkers_eq_nil_iff]
    simpa using isMarker

/-- In a list, what encloses the list has no part in its end. -/
theorem withoutList_concat
    {stack : List PlacedLexeme}
    (inList : withoutMarkers stack ≠ [])
    (outermost : PlacedLexeme) :
    withoutList (stack ++ [outermost]) =
      withoutMarkers ((withoutMarkers stack).tail ++ [outermost]) := by
  rw [withoutList, withoutMarkers_concat_of_ne_nil inList, List.tail_append_of_ne_nil inList]

theorem withoutList_concat_of_outside
    {stack : List PlacedLexeme}
    (outside : withoutMarkers stack = [])
    {outermost : PlacedLexeme}
    {offset : Nat}
    (isOpening : outermost.opening? = some offset) :
    withoutList (stack ++ [outermost]) = [] := by
  rw [withoutList, withoutMarkers_concat_of_opening _ isOpening, outside]
  rfl

theorem cutsOff_withoutList : CutsOff withoutList where
  keeps := by
    intro stack outermost left
    have inList : withoutMarkers stack ≠ [] := by
      intro nothing
      rw [withoutList, nothing] at left
      exact left rfl
    rw [withoutList_concat inList, withoutMarkers_concat_of_ne_nil left]
    rfl
  drops := by
    intro stack outermost isMarker nothing
    by_cases inList : withoutMarkers stack = []
    · rw [withoutList, cutsOff_withoutMarkers.drops stack outermost isMarker inList]
      rfl
    · rw [withoutList_concat inList]
      exact cutsOff_withoutMarkers.drops _ outermost isMarker nothing

/-- What a last lexeme cuts off, with what is needed to say the same of more lexemes in front. -/
structure Completes
    (cut : List PlacedLexeme → List PlacedLexeme)
    (last : PlacedLexeme)
    (read : List PlacedLexeme) : Prop where
  enclosing_eq : enclosing (read ++ [last]) = cut (enclosing read)
  /-- Where it completes what the first lexeme has begun, it completes everything. -/
  eq_nil :
    StaysOpen (read.map (·.lexeme)) →
      ¬ StaysOpen ((read ++ [last]).map (·.lexeme)) → cut (enclosing read) = []

namespace Completes

variable
    {cut : List PlacedLexeme → List PlacedLexeme}
    {first last : PlacedLexeme}
    {rest : List PlacedLexeme}

theorem cons_of_not_staysOpen
    (completes : Completes cut last rest)
    (closed : ¬ StaysOpen ((first :: rest).map (·.lexeme)))
    (closedLater : ¬ StaysOpen ((first :: (rest ++ [last])).map (·.lexeme))) :
    Completes cut last (first :: rest) := by
  refine ⟨?_, fun stays => absurd stays closed⟩
  rw [List.cons_append, enclosing_cons_of_not_staysOpen closedLater,
    enclosing_cons_of_not_staysOpen closed, completes.enclosing_eq]

/-- A lexeme that begins nothing has no part in it. -/
theorem cons_of_other
    (completes : Completes cut last rest)
    (other : first.lexeme ≠ .opening ∧ first.lexeme ≠ .marker) :
    Completes cut last (first :: rest) := by
  have never (later : List PlacedLexeme) : ¬ StaysOpen ((first :: later).map (·.lexeme)) := by
    rw [List.map_cons]
    exact not_staysOpen_cons other.1 other.2
  exact completes.cons_of_not_staysOpen (never rest) (never _)

theorem cons_of_staysOpen
    (completes : Completes cut last rest)
    (stays : StaysOpen ((first :: rest).map (·.lexeme)))
    (staysLater : StaysOpen ((first :: (rest ++ [last])).map (·.lexeme)))
    (keeps : cut (enclosing rest ++ [first]) = cut (enclosing rest) ++ [first]) :
    Completes cut last (first :: rest) := by
  refine ⟨?_, fun _ closed => absurd staysLater closed⟩
  rw [List.cons_append, enclosing_cons_of_staysOpen staysLater, enclosing_cons_of_staysOpen stays,
    completes.enclosing_eq, keeps]

theorem cons_of_completed
    (completes : Completes cut last rest)
    (stays : StaysOpen ((first :: rest).map (·.lexeme)))
    (closedLater : ¬ StaysOpen ((first :: (rest ++ [last])).map (·.lexeme)))
    (nothing : cut (enclosing rest) = [])
    (drops : cut (enclosing rest ++ [first]) = []) :
    Completes cut last (first :: rest) := by
  refine ⟨?_, fun _ _ => ?_⟩
  · rw [List.cons_append, enclosing_cons_of_not_staysOpen closedLater,
      enclosing_cons_of_staysOpen stays, completes.enclosing_eq, nothing, drops]
  · rw [enclosing_cons_of_staysOpen stays, drops]

theorem cons_marker
    (cutsOff : CutsOff cut)
    (empty : cut [] = [])
    (completes : Completes cut last rest)
    (alone : ¬ StaysOpen [last.lexeme])
    (isMarker : first.lexeme = .marker) :
    Completes cut last (first :: rest) := by
  have noOpening : first.opening? = none := by
    rw [PlacedLexeme.opening?, isMarker]
    rfl
  have later : StaysOpen ((first :: (rest ++ [last])).map (·.lexeme)) ↔
      StaysOpen ((rest ++ [last]).map (·.lexeme)) := by
    rw [List.map_cons, isMarker, staysOpen_marker_iff (by simp)]
  cases rest with
  | nil =>
      have stays : StaysOpen ([first].map (·.lexeme)) := by
        rw [List.map_singleton, isMarker]
        exact .inl rfl
      refine completes.cons_of_completed stays ?_ empty ?_
      · rw [later]
        exact alone
      · exact cutsOff.drops [] first noOpening empty
  | cons second rest =>
      have now : StaysOpen ((first :: second :: rest).map (·.lexeme)) ↔
          StaysOpen ((second :: rest).map (·.lexeme)) := by
        rw [List.map_cons, isMarker, staysOpen_marker_iff (by simp)]
      by_cases stays : StaysOpen ((second :: rest).map (·.lexeme))
      · by_cases staysLater : StaysOpen ((second :: rest ++ [last]).map (·.lexeme))
        · refine completes.cons_of_staysOpen (now.mpr stays) (later.mpr staysLater) ?_
          refine cutsOff.keeps _ first ?_
          rw [← completes.enclosing_eq]
          exact enclosing_ne_nil staysLater
        · have nothing := completes.eq_nil stays staysLater
          exact
            completes.cons_of_completed (now.mpr stays) (mt later.mp staysLater) nothing
              (cutsOff.drops _ first noOpening nothing)
      · refine completes.cons_of_not_staysOpen (mt now.mp stays) ?_
        rw [later]
        intro staysLater
        rw [List.map_append] at staysLater
        exact stays (staysLater.of_concat (by simp))

end Completes

/-! ## The last lexeme -/

theorem lastUnmatched?_cons
    (first : PlacedLexeme)
    (rest : List PlacedLexeme) :
    lastUnmatched? (first :: rest) =
      (lastUnmatched? rest).or
        (if StaysOpen ((first :: rest).map (·.lexeme)) then first.opening? else none) := by
  rw [lastUnmatched?, enclosing]
  split
  next => simp [lastUnmatched?, List.findSome?_append]
  next => simp [lastUnmatched?]

/-- A closing parenthesis at the end is matched if there is an opening one without a match. -/
theorem unmatchedClosings_concat_closing
    (read : List PlacedLexeme) :
    unmatchedClosings (read.map (·.lexeme) ++ [.closing]) =
      unmatchedClosings (read.map (·.lexeme)) +
        if (lastUnmatched? read).isSome then 0 else 1 := by
  induction read with
  | nil => rfl
  | cons first rest ih =>
      rw [lastUnmatched?_cons, List.map_cons, List.cons_append]
      cases kind : first.lexeme with
      | opening =>
          have isOpening : first.opening? = some first.offset := if_pos kind
          have stays : StaysOpen (.opening :: rest.map (·.lexeme)) ↔
              unmatchedClosings (rest.map (·.lexeme)) = 0 := leavesOpen_iff
          cases found : lastUnmatched? rest with
          | some offset => simp [unmatchedClosings, ih, found]
          | none =>
              by_cases matched : unmatchedClosings (rest.map (·.lexeme)) = 0
              · simp [unmatchedClosings, ih, found, isOpening, stays, matched]
              · simp only [unmatchedClosings, ih, found, stays, matched, if_false, Option.or_none,
                  Option.isSome_none, Bool.false_eq_true]
                omega
      | closing =>
          have other : first.opening? = none := if_neg (by rw [kind]; exact Lexeme.noConfusion)
          simp only [unmatchedClosings, ih, other, ite_self, Option.or_none]
          omega
      | marker | literal _ | atom _ =>
          have other : first.opening? = none := if_neg (by rw [kind]; exact Lexeme.noConfusion)
          simp only [unmatchedClosings, ih, other, ite_self, Option.or_none]

theorem completes_leaf
    {last : PlacedLexeme}
    (isLeaf : last.lexeme ≠ .opening ∧ last.lexeme ≠ .closing ∧ last.lexeme ≠ .marker)
    (read : List PlacedLexeme) :
    Completes withoutMarkers last read := by
  have alone : ¬ StaysOpen [last.lexeme] := not_staysOpen_cons isLeaf.1 isLeaf.2.2
  induction read with
  | nil => exact ⟨enclosing_cons_of_not_staysOpen alone, fun _ _ => rfl⟩
  | cons first rest ih =>
      cases kind : first.lexeme with
      | opening =>
          have isOpening : first.opening? = some first.offset := if_pos kind
          have same : StaysOpen ((first :: (rest ++ [last])).map (·.lexeme)) ↔
              StaysOpen ((first :: rest).map (·.lexeme)) := by
            simp only [List.map_cons, List.map_append, List.map_nil, kind, StaysOpen, leavesOpen_iff,
              unmatchedClosings_concat_of_ne _ isLeaf.2.1]
          by_cases stays : StaysOpen ((first :: rest).map (·.lexeme))
          · exact
              ih.cons_of_staysOpen stays (same.mpr stays)
                (withoutMarkers_concat_of_opening _ isOpening)
          · exact ih.cons_of_not_staysOpen stays (mt same.mp stays)
      | marker => exact ih.cons_marker cutsOff_withoutMarkers rfl alone kind
      | closing | literal _ | atom _ =>
          refine ih.cons_of_other ⟨?_, ?_⟩ <;>
            · rw [kind]
              exact Lexeme.noConfusion

theorem completes_closing
    {last : PlacedLexeme}
    (isClosing : last.lexeme = .closing)
    (read : List PlacedLexeme) :
    Completes withoutList last read := by
  have alone : ¬ StaysOpen [last.lexeme] := by
    rw [isClosing]
    exact id
  induction read with
  | nil => exact ⟨enclosing_cons_of_not_staysOpen alone, fun _ _ => rfl⟩
  | cons first rest ih =>
      cases kind : first.lexeme with
      | opening =>
          have isOpening : first.opening? = some first.offset := if_pos kind
          have now : StaysOpen ((first :: rest).map (·.lexeme)) ↔
              unmatchedClosings (rest.map (·.lexeme)) = 0 := by
            simp only [List.map_cons, kind, StaysOpen, leavesOpen_iff]
          have later : StaysOpen ((first :: (rest ++ [last])).map (·.lexeme)) ↔
              unmatchedClosings (rest.map (·.lexeme)) = 0 ∧ (lastUnmatched? rest).isSome := by
            simp only [List.map_cons, List.map_append, List.map_nil, kind, isClosing, StaysOpen,
              leavesOpen_iff, unmatchedClosings_concat_closing]
            cases lastUnmatched? rest <;> simp
          by_cases stays : StaysOpen ((first :: rest).map (·.lexeme))
          · cases found : lastUnmatched? rest with
            | some offset =>
                have inList : withoutMarkers (enclosing rest) ≠ [] := by
                  rw [Ne, withoutMarkers_eq_nil_iff, ← lastUnmatched?, found]
                  exact Option.some_ne_none _
                refine ih.cons_of_staysOpen stays (later.mpr ⟨now.mp stays, by rw [found]; rfl⟩) ?_
                rw [withoutList_concat inList, withoutMarkers_concat_of_opening _ isOpening]
                rfl
            | none =>
                have outside : withoutMarkers (enclosing rest) = [] :=
                  withoutMarkers_eq_nil_iff.mpr found
                have nothing : withoutList (enclosing rest) = [] := by
                  rw [withoutList, outside]
                  rfl
                refine
                  ih.cons_of_completed stays ?_ nothing
                    (withoutList_concat_of_outside outside isOpening)
                rw [later, found]
                exact fun impossible => Bool.false_ne_true impossible.2
          · refine ih.cons_of_not_staysOpen stays ?_
            rw [later]
            exact fun staysLater => stays (now.mpr staysLater.1)
      | marker => exact ih.cons_marker cutsOff_withoutList rfl alone kind
      | closing | literal _ | atom _ =>
          refine ih.cons_of_other ⟨?_, ?_⟩ <;>
            · rw [kind]
              exact Lexeme.noConfusion

/-- An atom or a literal ends the expression of the innermost markers. -/
theorem enclosing_leaf
    (read : List PlacedLexeme)
    {last : PlacedLexeme}
    (isLeaf : last.lexeme ≠ .opening ∧ last.lexeme ≠ .closing ∧ last.lexeme ≠ .marker) :
    enclosing (read ++ [last]) = withoutMarkers (enclosing read) :=
  (completes_leaf isLeaf read).enclosing_eq

/-- A closing parenthesis ends the innermost list, and with it the expression of markers. -/
theorem enclosing_closing
    (read : List PlacedLexeme)
    {last : PlacedLexeme}
    (isClosing : last.lexeme = .closing) :
    enclosing (read ++ [last]) = withoutList (enclosing read) :=
  (completes_closing isClosing read).enclosing_eq

end Barrage.Document
