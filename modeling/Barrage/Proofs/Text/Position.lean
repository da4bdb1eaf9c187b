import Barrage.Text.Position

/-!
# Positions identify places

A place in a text has an offset, and it has a position.  The position is reached
from the start of the line by going on as many characters as the column says
(`ofOffset_eq_iff`), and there is one place where a line starts
(`StartsLine.unique`).

One character further the position is a later one (`precedes_succ`).  So the
positions of a text are in the order of its places, and no two places share one.

Places can also be counted in bytes of UTF-8.  The numbers of bytes after which
no character is cut are those of the offsets up to the length of the text
(`isValid_iff_placeAt`), in the same order (`placeAt_lt_placeAt`).
-/

namespace Barrage.Text

/-! ## Places in bytes -/

/-- The place behind this many characters, counted in bytes of UTF-8. -/
def placeAt
    (text : List Char)
    (offset : Nat) : String.Pos.Raw :=
  (String.ofList (text.take offset)).rawEndPos

section Places

variable {text : List Char}

/-- The numbers of bytes that cut no character are those before the places of a text. -/
theorem isValid_iff_placeAt
    {place : String.Pos.Raw} :
    place.IsValid (String.ofList text) ↔
      ∃ offset, offset ≤ text.length ∧ placeAt text offset = place := by
  rw [String.Pos.Raw.isValid_iff_exists_take_toList, String.toList_ofList]
  constructor
  · rintro ⟨offset, bytes⟩
    refine ⟨min offset text.length, Nat.min_le_right _ _, ?_⟩
    rw [placeAt, ← List.take_eq_take_min]
    exact String.Pos.Raw.ext bytes.symm
  · rintro ⟨offset, -, rfl⟩
    exact ⟨offset, rfl⟩

/-- A character takes at least one byte. -/
theorem placeAt_lt_succ
    {offset : Nat}
    (inside : offset < text.length) :
    placeAt text offset < placeAt text (offset + 1) := by
  have wide := Char.utf8Size_pos text[offset]
  rw [placeAt, placeAt, List.take_succ_eq_append_getElem inside, String.ofList_append,
    String.Pos.Raw.lt_iff, String.byteIdx_rawEndPos, String.byteIdx_rawEndPos,
    String.utf8ByteSize_append, ← String.singleton_eq_ofList, String.utf8ByteSize_singleton]
  omega

theorem placeAt_lt_placeAt
    {offset other : Nat}
    (earlier : offset < other)
    (inside : other ≤ text.length) :
    placeAt text offset < placeAt text other := by
  induction earlier with
  | refl => exact placeAt_lt_succ inside
  | @step middle _ ih =>
      have sooner := ih (Nat.le_of_succ_le inside)
      have later := placeAt_lt_succ (Nat.lt_of_succ_le inside)
      rw [String.Pos.Raw.lt_iff] at sooner later ⊢
      exact Nat.lt_trans sooner later

theorem placeAt_lt_iff
    {offset other : Nat}
    (inside : offset ≤ text.length)
    (otherInside : other ≤ text.length) :
    placeAt text offset < placeAt text other ↔ offset < other := by
  refine ⟨fun sooner => Nat.lt_of_not_le fun notEarlier => ?_, fun earlier =>
    placeAt_lt_placeAt earlier otherInside⟩
  rw [String.Pos.Raw.lt_iff] at sooner
  rcases Nat.lt_or_eq_of_le notEarlier with later | rfl
  · exact Nat.lt_asymm sooner (placeAt_lt_placeAt later inside)
  · exact Nat.lt_irrefl _ sooner

end Places

/-! ## Lines -/

/-- A line starts at this offset: at the start of the text, or right behind a line feed. -/
structure StartsLine
    (text : List Char)
    (line start : Nat) : Prop where
  line_eq : (text.take start).count '\n' + 1 = line
  behind : start = 0 ∨ text[start - 1]? = some '\n'

theorem count_take_mono
    (text : List Char)
    {offset other : Nat}
    (notLater : offset ≤ other)
    (character : Char) :
    (text.take offset).count character ≤ (text.take other).count character :=
  (List.take_prefix_take_left notLater).sublist.count_le character

/-- Between the starts of two lines stands the line feed in front of the second. -/
theorem StartsLine.lt_of_lt
    {text : List Char}
    {line other start otherStart : Nat}
    (starts : StartsLine text line start)
    (startsOther : StartsLine text other otherStart)
    (earlier : start < otherStart) :
    line < other := by
  obtain ⟨before, rfl⟩ := Nat.exists_eq_add_of_lt earlier
  have lineFeed := startsOther.behind.resolve_left (Nat.succ_ne_zero _)
  rw [Nat.add_sub_cancel] at lineFeed
  obtain ⟨inside, isLineFeed⟩ := List.getElem?_eq_some_iff.mp lineFeed
  have counted := startsOther.line_eq
  rw [List.take_succ_eq_append_getElem inside, isLineFeed, List.count_append,
    List.count_singleton_self] at counted
  have notFewer := count_take_mono text (Nat.le_add_right start before) '\n'
  have countedBefore := starts.line_eq
  omega

/-- A line starts at one place. -/
theorem StartsLine.unique
    {text : List Char}
    {line start other : Nat}
    (starts : StartsLine text line start)
    (startsOther : StartsLine text line other) :
    start = other := by
  rcases Nat.lt_trichotomy start other with earlier | same | later
  · exact absurd (starts.lt_of_lt startsOther earlier) (Nat.lt_irrefl line)
  · exact same
  · exact absurd (startsOther.lt_of_lt starts later) (Nat.lt_irrefl line)

namespace Position

variable {text : List Char}

/-! ## Positions and the starts of lines -/

/-- What one character more does to the position. -/
theorem ofOffset_succ
    {offset : Nat}
    (inside : offset < text.length) :
    ofOffset text (offset + 1) =
      if text[offset] = '\n' then ⟨(ofOffset text offset).line + 1, 1⟩
      else ⟨(ofOffset text offset).line, (ofOffset text offset).column + 1⟩ := by
  rw [ofOffset, List.take_succ_eq_append_getElem inside]
  split
  next lineFeed => rw [lineFeed, after_append_lineFeed, ofOffset]
  next other => rw [after_append_of_ne _ _ other, ofOffset]

/-- The column counts the characters since the start of the line. -/
theorem exists_startsLine
    {offset : Nat}
    (inside : offset ≤ text.length) :
    ∃ start,
      StartsLine text (ofOffset text offset).line start ∧
        start + (ofOffset text offset).column = offset + 1 := by
  induction offset with
  | zero => exact ⟨0, ⟨rfl, .inl rfl⟩, rfl⟩
  | succ offset ih =>
      obtain ⟨start, starts, column⟩ := ih (Nat.le_of_succ_le inside)
      by_cases lineFeed : text[offset] = '\n'
      · refine ⟨offset + 1, ⟨rfl, .inr ?_⟩, ?_⟩
        · rw [Nat.add_sub_cancel, List.getElem?_eq_getElem inside, lineFeed]
        · rw [ofOffset_succ inside, if_pos lineFeed]
      · rw [ofOffset_succ inside, if_neg lineFeed]
        exact ⟨start, starts, by rw [← Nat.add_assoc, column]⟩

/-- The position in words of the line: how many line feeds, and how far from its start. -/
theorem ofOffset_eq_iff
    {offset line column : Nat}
    (inside : offset ≤ text.length) :
    ofOffset text offset = ⟨line, column⟩ ↔
      (text.take offset).count '\n' + 1 = line ∧
        ∃ start, StartsLine text line start ∧ 1 ≤ column ∧ start + (column - 1) = offset := by
  obtain ⟨found, foundStarts, foundColumn⟩ := exists_startsLine inside
  constructor
  · intro position
    have positive : 1 ≤ (ofOffset text offset).column := Nat.le_add_left 1 _
    rw [position] at foundStarts foundColumn positive
    refine ⟨congrArg Position.line position, found, foundStarts, positive, ?_⟩
    dsimp only at foundColumn positive
    omega
  · rintro ⟨sameLine, start, starts, positive, reached⟩
    have lineOf : (ofOffset text offset).line = line := sameLine
    rw [lineOf] at foundStarts
    have same := starts.unique foundStarts
    rw [Position.mk.injEq]
    omega

/-! ## The order of positions -/

/-- On an earlier line, or on the same line in an earlier column. -/
def Precedes (position other : Position) : Prop :=
  position.line < other.line ∨ position.line = other.line ∧ position.column < other.column

theorem Precedes.trans
    {first second third : Position}
    (precedes : first.Precedes second)
    (precedesLater : second.Precedes third) :
    first.Precedes third := by
  simp only [Precedes] at *
  omega

theorem Precedes.irrefl (position : Position) : ¬ position.Precedes position := by
  simp [Precedes]

theorem precedes_succ
    {offset : Nat}
    (inside : offset < text.length) :
    (ofOffset text offset).Precedes (ofOffset text (offset + 1)) := by
  rw [ofOffset_succ inside]
  split
  next lineFeed => exact .inl (Nat.lt_succ_self _)
  next other => exact .inr ⟨rfl, Nat.lt_succ_self _⟩

theorem precedes_of_lt
    {offset other : Nat}
    (earlier : offset < other)
    (inside : other ≤ text.length) :
    (ofOffset text offset).Precedes (ofOffset text other) := by
  induction earlier with
  | refl => exact precedes_succ inside
  | step _ ih => exact (ih (Nat.le_of_succ_le inside)).trans (precedes_succ inside)

theorem precedes_iff_lt
    {offset other : Nat}
    (inside : offset ≤ text.length)
    (otherInside : other ≤ text.length) :
    (ofOffset text offset).Precedes (ofOffset text other) ↔ offset < other := by
  refine ⟨fun precedes => ?_, fun earlier => precedes_of_lt earlier otherInside⟩
  refine Nat.lt_of_not_le fun notEarlier => ?_
  rcases Nat.lt_or_eq_of_le notEarlier with later | rfl
  · exact Precedes.irrefl _ (precedes.trans (precedes_of_lt later inside))
  · exact Precedes.irrefl _ precedes

/--
A place of a text is known by its line and its column.  Places are the numbers
of bytes that cut no character.  The line counts the line feeds before a place,
and the column leads to it from where the line starts.  The order of places is
the order of positions, line by line, so that no two places share a position.
What lies past the end is at the end.
-/
theorem positions_identify_places (text : List Char) :
    (∀ place : String.Pos.Raw,
      place.IsValid (String.ofList text) ↔
        ∃ offset, offset ≤ text.length ∧ placeAt text offset = place) ∧
      (∀ offset line column,
        offset ≤ text.length →
          (ofOffset text offset = ⟨line, column⟩ ↔
            (text.take offset).count '\n' + 1 = line ∧
              ∃ start,
                StartsLine text line start ∧ 1 ≤ column ∧ start + (column - 1) = offset)) ∧
      (∀ line start other,
        StartsLine text line start → StartsLine text line other → start = other) ∧
      (∀ offset other,
        offset ≤ text.length →
          other ≤ text.length →
            (placeAt text offset < placeAt text other ↔
                (ofOffset text offset).Precedes (ofOffset text other)) ∧
              (ofOffset text offset = ofOffset text other → offset = other)) ∧
      ∀ offset, text.length ≤ offset → ofOffset text offset = ofOffset text text.length := by
  refine ⟨fun place => isValid_iff_placeAt, fun offset line column inside => ofOffset_eq_iff inside,
    fun line start other starts startsOther => starts.unique startsOther, ?_, ?_⟩
  · intro offset other inside otherInside
    constructor
    · rw [placeAt_lt_iff inside otherInside, precedes_iff_lt inside otherInside]
    · intro same
      rcases Nat.lt_trichotomy offset other with earlier | equal | later
      · exact absurd (same ▸ precedes_of_lt earlier otherInside) (Precedes.irrefl _)
      · exact equal
      · exact absurd (same ▸ precedes_of_lt later inside) (Precedes.irrefl _)
  · intro offset pastEnd
    rw [ofOffset_of_length_le pastEnd, ofOffset_of_length_le (Nat.le_refl _)]

/-- A character of two bytes and a line feed stand before the second line. -/
theorem place_on_second_line_is_identified :
    placeAt ['é', '\n', 'x'] 2 = ⟨3⟩ ∧
      StartsLine ['é', '\n', 'x'] 2 2 ∧
      ofOffset ['é', '\n', 'x'] 3 = ⟨2, 2⟩ ∧
      ofOffset ['é', '\n', 'x'] 9 = ofOffset ['é', '\n', 'x'] 3 := by
  obtain ⟨-, position, -, -, pastEnd⟩ := positions_identify_places ['é', '\n', 'x']
  have starts : StartsLine ['é', '\n', 'x'] 2 2 := ⟨rfl, .inr rfl⟩
  exact
    ⟨by decide, starts, (position 3 2 2 (by decide)).mpr ⟨rfl, 2, starts, by decide, rfl⟩,
      pastEnd 9 (by decide)⟩

end Position

end Barrage.Text
