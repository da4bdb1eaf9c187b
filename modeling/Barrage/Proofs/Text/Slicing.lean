import Mathlib.Data.Nat.PSub
import Mathlib.Data.String.Basic
import Barrage.Proofs.Text.Position

/-!
# Cutting texts at places

A text is cut at two places, which are counted in bytes of UTF-8.  That is meant
only where neither of them cuts a character and the first is not behind the
second (`slice?`).  A text that is put together from three has the one in the
middle as such a part (`slice?_append`).

A position is found by cutting twice, at its place and behind the last line feed
before it (`position?`).  At the places of a text this comes to the position of
the offset (`position?_placeAt`).
-/

namespace Barrage.Text

open String

/-! ## Parts of texts -/

/-- The part of a text between two places.  There is none where that would cut a character. -/
def slice? (text : String) (first last : Pos.Raw) : Option String :=
  if first.isValid text && last.isValid text && decide (first ≤ last) then
    some (first.extract text last)
  else none

theorem placeAt_append (before after : List Char) :
    placeAt (before ++ after) before.length = ⟨utf8Len before⟩ := by
  rw [placeAt, List.take_left, rawEndPos_ofList]

theorem isValid_utf8Len (before after : List Char) :
    (⟨utf8Len before⟩ : Pos.Raw).isValid (ofList (before ++ after)) := by
  rw [Pos.Raw.isValid_eq_true_iff, isValid_iff_placeAt]
  refine ⟨before.length, ?_, placeAt_append before after⟩
  rw [List.length_append]
  exact Nat.le_add_right _ _

theorem slice?_append (before middle after : List Char) :
    slice? (ofList (before ++ middle ++ after)) ⟨utf8Len before⟩
        ⟨utf8Len before + utf8Len middle⟩ =
      some (ofList middle) := by
  have first : (⟨utf8Len before⟩ : Pos.Raw).isValid (ofList (before ++ middle ++ after)) := by
    rw [List.append_assoc]
    exact isValid_utf8Len before _
  have last :
      (⟨utf8Len before + utf8Len middle⟩ : Pos.Raw).isValid
        (ofList (before ++ middle ++ after)) := by
    rw [← utf8Len_append]
    exact isValid_utf8Len _ after
  have ordered : (⟨utf8Len before⟩ : Pos.Raw) ≤ ⟨utf8Len before + utf8Len middle⟩ :=
    Pos.Raw.mk_le_mk.mpr (Nat.le_add_right _ _)
  rw [slice?, first, last, decide_eq_true ordered, extract_of_valid]
  rfl

/-! ## Positions -/

/-- The place of the last line feed of a text. -/
def lastLineFeed? (text : List Char) : Option Pos.Raw :=
  match text.reverse.dropWhile (· != '\n') with
  | [] => none
  | _ :: before => some ⟨utf8Len before.reverse⟩

/-- The position of a place.  The text is cut there, and again behind a line feed before it. -/
def position? (text : String) (place : Pos.Raw) : Option Position := do
  let before ← slice? text 0 place
  match lastLineFeed? before.toList with
  | none => some ⟨before.toList.count '\n' + 1, before.length + 1⟩
  | some lineFeed =>
      let line ← slice? before ⟨lineFeed.byteIdx + 1⟩ before.rawEndPos
      some ⟨before.toList.count '\n' + 1, line.length + 1⟩

/-- A text is its last line, behind all up to the line feed before that. -/
theorem lastLineFeed?_cases (text : List Char) :
    (lastLineFeed? text = none ∧ text.reverse.takeWhile (· != '\n') = text.reverse) ∨
      ∃ before,
        lastLineFeed? text = some ⟨utf8Len before⟩ ∧
          text = before ++ ['\n'] ++ (text.reverse.takeWhile (· != '\n')).reverse := by
  have parts := List.takeWhile_append_dropWhile (p := (· != '\n')) (l := text.reverse)
  rw [lastLineFeed?]
  cases rest : text.reverse.dropWhile (· != '\n') with
  | nil =>
      rw [rest, List.append_nil] at parts
      exact .inl ⟨rfl, parts⟩
  | cons lineFeed before =>
      have isLineFeed : lineFeed = '\n' := by
        have stops := List.head?_dropWhile_not (· != '\n') text.reverse
        rw [rest] at stops
        simpa using stops
      refine .inr ⟨before.reverse, rfl, ?_⟩
      rw [rest, isLineFeed] at parts
      rw [← List.reverse_inj]
      simpa using parts.symm

/-- Cutting behind a line feed leaves what follows it. -/
theorem slice?_behind_lineFeed (before line : List Char) :
    slice? (ofList (before ++ ['\n'] ++ line)) ⟨utf8Len before + 1⟩
        (ofList (before ++ ['\n'] ++ line)).rawEndPos =
      some (ofList line) := by
  have cut := slice?_append (before ++ ['\n']) line []
  have oneByte : utf8Len (before ++ ['\n']) = utf8Len before + 1 := by
    rw [utf8Len_append]
    rfl
  rw [List.append_nil, ← utf8Len_append, oneByte, ← rawEndPos_ofList] at cut
  exact cut

/-- Cutting at the place of an offset finds its position. -/
theorem position?_placeAt
    (text : List Char)
    (offset : Nat) :
    position? (ofList text) (placeAt text offset) = some (Position.ofOffset text offset) := by
  have before : slice? (ofList text) 0 (placeAt text offset) = some (ofList (text.take offset)) := by
    have cut := slice?_append [] (text.take offset) (text.drop offset)
    rw [List.nil_append, List.take_append_drop, utf8Len_nil, Nat.zero_add] at cut
    rw [placeAt, rawEndPos_ofList]
    exact cut
  rw [position?, before, Position.ofOffset, Position.after]
  simp only [Option.bind_eq_bind, Option.bind_some, toList_ofList]
  obtain ⟨noLineFeed, whole⟩ | ⟨front, found, split⟩ := lastLineFeed?_cases (text.take offset)
  · rw [noLineFeed, whole, List.length_reverse, length_ofList]
  · have cut := slice?_behind_lineFeed front
      ((text.take offset).reverse.takeWhile (· != '\n')).reverse
    rw [← split] at cut
    simp only [found, cut, Option.bind_some, length_ofList, List.length_reverse]

end Barrage.Text
