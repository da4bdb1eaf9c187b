import Barrage.Document.Lexeme

/-!
# How lexemes are spelled

A text is spelled with lexemes and with gaps before them.  A gap is a run of
blank characters and of comments that a line feed closes.  `Spelled` relates a
text to its lexemes, with their offsets, and leaves open which gaps are allowed.

The scanner is described by what it does in each of its modes with a run of
characters that keeps it there.  From this follows that it finds exactly the
lexemes that a text is spelled with, as long as no two of them touch
(`scan_of_spelled`): what a comment or a literal holds does not matter, and an
atom is ended by any gap.
-/

namespace Barrage.Document

open Barrage.Text

/-! ## Characters -/

namespace Lexeme

theorem isBlank_of_isGap
    {character : Char}
    (gap : isGap character = true) :
    isBlank character = true := by
  simp only [isGap, Bool.or_eq_true, beq_iff_eq] at gap
  rcases gap with (((rfl | rfl) | rfl) | rfl) | rfl <;> decide

/-- Every character begins something, is passed over, or is refused. -/
theorem character_cases
    {motive : Char → Prop}
    (opening : motive '(')
    (closing : motive ')')
    (marker : motive '\'')
    (quote : motive '"')
    (semicolon : motive ';')
    (gap : ∀ character, isGap character = true → motive character)
    (stray : ∀ character, isBlank character = true → isGap character = false → motive character)
    (atom : ∀ character, endsAtom character = false → motive character)
    (character : Char) :
    motive character := by
  by_cases inside : endsAtom character = false
  · exact atom character inside
  simp only [endsAtom, Bool.not_eq_false, Bool.or_eq_true, beq_iff_eq] at inside
  rcases inside with ((((blank | rfl) | rfl) | rfl) | rfl) | rfl
  · cases isAllowed : isGap character with
    | true => exact gap character isAllowed
    | false => exact stray character blank isAllowed
  · exact opening
  · exact closing
  · exact marker
  · exact quote
  · exact semicolon

end Lexeme

/-! ## Texts -/

/-- A run of what means nothing: blank characters, and comments closed by a line feed. -/
inductive Skipped : List Char → Prop
  | nil : Skipped []
  | blank
      {character : Char}
      {rest : List Char}
      (allowed : Lexeme.isGap character = true)
      (later : Skipped rest) :
      Skipped (character :: rest)
  | comment
      {words rest : List Char}
      (oneLine : '\n' ∉ words)
      (later : Skipped rest) :
      Skipped (';' :: (words ++ '\n' :: rest))

theorem Skipped.append
    {first second : List Char}
    (skipped : Skipped first)
    (skippedLater : Skipped second) :
    Skipped (first ++ second) := by
  induction skipped with
  | nil => exact skippedLater
  | blank allowed _ ih => exact .blank allowed ih
  | comment oneLine _ ih =>
      rw [List.cons_append, List.append_assoc, List.cons_append]
      exact .comment oneLine ih

/-- Something stands there, and it means nothing. -/
def IsGap (gap : List Char) : Prop :=
  gap ≠ [] ∧ Skipped gap

/-- What stands between the quotes of a literal: a backslash goes with the character after it. -/
inductive LiteralBody : List Char → Prop
  | nil : LiteralBody []
  | plain
      {character : Char}
      {rest : List Char}
      (notQuote : character ≠ '"')
      (notBackslash : character ≠ '\\')
      (later : LiteralBody rest) :
      LiteralBody (character :: rest)
  | escape
      {character : Char}
      {rest : List Char}
      (notLineFeed : character ≠ '\n')
      (later : LiteralBody rest) :
      LiteralBody ('\\' :: character :: rest)

theorem LiteralBody.append
    {first second : List Char}
    (body : LiteralBody first)
    (later : LiteralBody second) :
    LiteralBody (first ++ second) := by
  induction body with
  | nil => exact later
  | plain notQuote notBackslash _ ih => exact .plain notQuote notBackslash ih
  | escape notLineFeed _ ih => exact .escape notLineFeed ih

/-- A lexeme as it can stand in a text. -/
def Lexeme.IsWritten : Lexeme → Prop
  | .opening | .closing | .marker => True
  | .literal body => LiteralBody body
  | .atom name => name ≠ [] ∧ ∀ character ∈ name, endsAtom character = false

/-- The text up to the end of its last lexeme, with gaps of some kind before the lexemes. -/
inductive Spelled (gaps : List Char → Prop) : List PlacedLexeme → List Char → Prop
  | nil : Spelled gaps [] []
  | snoc
      {placed : List PlacedLexeme}
      {before gap : List Char}
      (earlier : Spelled gaps placed before)
      (between : gaps gap)
      (lexeme : Lexeme) :
      Spelled gaps
        (placed ++ [⟨lexeme, (before ++ gap).length⟩])
        (before ++ gap ++ lexeme.characters)

/-- No lexeme begins after the end of the text. -/
theorem Spelled.offset_le
    {gaps : List Char → Prop}
    {placed : List PlacedLexeme}
    {text : List Char}
    (spelled : Spelled gaps placed text) :
    ∀ lexeme ∈ placed, lexeme.offset ≤ text.length := by
  induction spelled with
  | nil =>
      intro lexeme member
      cases member
  | snoc _ _ last ih =>
      intro lexeme member
      rw [List.length_append]
      rcases List.mem_append.mp member with inFront | isLast
      · have early := ih lexeme inFront
        rw [List.length_append]
        omega
      · rw [List.mem_singleton.mp isLast]
        exact Nat.le_add_right _ _

namespace Scanner

variable (offset : Nat) (found : List PlacedLexeme)

/-! ## What begins with a character -/

theorem begin_of_isGap
    (mode : ScanMode)
    {character : Char}
    (gap : Lexeme.isGap character = true) :
    begin ⟨offset, mode, found⟩ character = ⟨offset + 1, .gap, found⟩ := by
  simp only [Lexeme.isGap, Bool.or_eq_true, beq_iff_eq] at gap
  rcases gap with (((rfl | rfl) | rfl) | rfl) | rfl <;> rfl

theorem begin_of_endsAtom_eq_false
    (mode : ScanMode)
    {character : Char}
    (inside : Lexeme.endsAtom character = false) :
    begin ⟨offset, mode, found⟩ character = ⟨offset + 1, .atom offset [character], found⟩ := by
  simp only [Lexeme.endsAtom, Bool.or_eq_false_iff] at inside
  obtain ⟨⟨⟨⟨⟨notBlank, notOpening⟩, notClosing⟩, notMarker⟩, notQuote⟩, notSemicolon⟩ := inside
  have notGap : Lexeme.isGap character = false := by
    rw [Bool.eq_false_iff]
    intro gap
    rw [Lexeme.isBlank_of_isGap gap] at notBlank
    cases notBlank
  simp only [begin, notBlank, notOpening, notClosing, notMarker, notQuote, notSemicolon, notGap,
    Bool.false_eq_true, if_false]

theorem begin_of_stray
    (mode : ScanMode)
    {character : Char}
    (blank : isBlank character = true)
    (notGap : Lexeme.isGap character = false) :
    begin ⟨offset, mode, found⟩ character =
      ⟨offset + 1, .stopped offset (.strayCharacter character), found⟩ := by
  have ne_of_notBlank (candidate : Char) (notBlank : isBlank candidate = false) :
      (character == candidate) = false := by
    rw [beq_eq_false_iff_ne]
    rintro rfl
    rw [blank] at notBlank
    cases notBlank
  have notOpening := ne_of_notBlank '(' (by decide)
  have notClosing := ne_of_notBlank ')' (by decide)
  have notMarker := ne_of_notBlank '\'' (by decide)
  have notQuote := ne_of_notBlank '"' (by decide)
  have notSemicolon := ne_of_notBlank ';' (by decide)
  simp only [begin, blank, notOpening, notClosing, notMarker, notQuote, notSemicolon, notGap,
    Bool.false_eq_true, if_false, if_true]

/-! ## One character in each mode -/

section Step

variable (start : Nat) (newestFirst : List Char) {character : Char}

theorem step_comment_of_ne (notLineFeed : character ≠ '\n') :
    step ⟨offset, .comment, found⟩ character = ⟨offset + 1, .comment, found⟩ :=
  if_neg (by simpa using notLineFeed)

/-- What ends an atom begins something itself. -/
theorem step_atom_of_endsAtom (ends : Lexeme.endsAtom character = true) :
    step ⟨offset, .atom start newestFirst, found⟩ character =
      begin ⟨offset, .atom start newestFirst, ⟨.atom newestFirst.reverse, start⟩ :: found⟩
        character :=
  if_pos ends

theorem step_atom_of_inside (inside : Lexeme.endsAtom character = false) :
    step ⟨offset, .atom start newestFirst, found⟩ character =
      ⟨offset + 1, .atom start (character :: newestFirst), found⟩ :=
  if_neg (by simp [inside])

theorem step_literal_of_ne
    (notQuote : character ≠ '"')
    (notBackslash : character ≠ '\\') :
    step ⟨offset, .literal start newestFirst, found⟩ character =
      ⟨offset + 1, .literal start (character :: newestFirst), found⟩ := by
  simp only [step, beq_false_of_ne notQuote, beq_false_of_ne notBackslash, Bool.false_eq_true,
    if_false]

theorem step_escape_of_ne (notLineFeed : character ≠ '\n') :
    step ⟨offset, .escape start newestFirst, found⟩ character =
      ⟨offset + 1, .literal start (character :: newestFirst), found⟩ :=
  if_neg (by simpa using notLineFeed)

end Step

/-! ## Runs of characters in one mode -/

theorem run_comment
    {words : List Char}
    (oneLine : '\n' ∉ words) :
    run ⟨offset, .comment, found⟩ words = ⟨offset + words.length, .comment, found⟩ := by
  induction words generalizing offset with
  | nil => rfl
  | cons character rest ih =>
      rw [List.mem_cons, not_or] at oneLine
      rw [run_cons, step_comment_of_ne _ _ (Ne.symm oneLine.1), ih _ oneLine.2, List.length_cons,
        Nat.add_assoc, Nat.add_comm 1]

theorem run_skipped
    {gap : List Char}
    (skipped : Skipped gap) :
    run ⟨offset, .gap, found⟩ gap = ⟨offset + gap.length, .gap, found⟩ := by
  induction skipped generalizing offset with
  | nil => rfl
  | @blank character rest allowed _ ih =>
      have step : step ⟨offset, .gap, found⟩ character = ⟨offset + 1, .gap, found⟩ :=
        begin_of_isGap offset found .gap allowed
      rw [run_cons, step, ih, List.length_cons, Nat.add_assoc, Nat.add_comm 1]
  | @comment words rest oneLine _ ih =>
      have semicolon : step ⟨offset, .gap, found⟩ ';' = ⟨offset + 1, .comment, found⟩ := rfl
      have lineFeed : step ⟨offset + 1 + words.length, .comment, found⟩ '\n' =
          ⟨offset + 1 + words.length + 1, .gap, found⟩ := rfl
      rw [run_cons, semicolon, run_append, run_comment _ _ oneLine, run_cons, lineFeed, ih]
      simp only [List.length_cons, List.length_append, Nat.add_assoc, Nat.add_comm 1]

theorem run_literalBody
    (start : Nat)
    (newestFirst : List Char)
    {body : List Char}
    (isBody : LiteralBody body) :
    run ⟨offset, .literal start newestFirst, found⟩ body =
      ⟨offset + body.length, .literal start (body.reverse ++ newestFirst), found⟩ := by
  induction isBody generalizing offset newestFirst with
  | nil => rfl
  | @plain character rest notQuote notBackslash _ ih =>
      rw [run_cons, step_literal_of_ne _ _ _ _ notQuote notBackslash, ih, List.length_cons,
        List.reverse_cons, List.append_assoc, List.singleton_append, Nat.add_assoc, Nat.add_comm 1]
  | @escape character rest notLineFeed _ ih =>
      have backslash : step ⟨offset, .literal start newestFirst, found⟩ '\\' =
          ⟨offset + 1, .escape start ('\\' :: newestFirst), found⟩ := rfl
      rw [run_cons, backslash, run_cons, step_escape_of_ne _ _ _ _ notLineFeed, ih]
      simp only [List.length_cons, List.reverse_cons, List.append_assoc, List.singleton_append,
        Nat.add_assoc, Nat.add_comm 1]
      rfl

theorem run_atom
    (start : Nat)
    (newestFirst : List Char)
    {name : List Char}
    (inside : ∀ character ∈ name, Lexeme.endsAtom character = false) :
    run ⟨offset, .atom start newestFirst, found⟩ name =
      ⟨offset + name.length, .atom start (name.reverse ++ newestFirst), found⟩ := by
  induction name generalizing offset newestFirst with
  | nil => rfl
  | cons character rest ih =>
      rw [run_cons, step_atom_of_inside _ _ _ _ (inside character List.mem_cons_self),
        ih _ _ fun other member => inside other (List.mem_cons_of_mem _ member), List.length_cons,
        List.reverse_cons, List.append_assoc, List.singleton_append, Nat.add_assoc, Nat.add_comm 1]

/-- A gap ends an atom, and is passed over then. -/
theorem run_gap_after_atom
    (start : Nat)
    (newestFirst : List Char)
    {gap : List Char}
    (isGap : IsGap gap) :
    run ⟨offset, .atom start newestFirst, found⟩ gap =
      run ⟨offset, .gap, ⟨.atom newestFirst.reverse, start⟩ :: found⟩ gap := by
  obtain ⟨nonempty, skipped⟩ := isGap
  have ends (character : Char) (ending : Lexeme.endsAtom character = true) :
      step ⟨offset, .atom start newestFirst, found⟩ character =
        step ⟨offset, .gap, ⟨.atom newestFirst.reverse, start⟩ :: found⟩ character := by
    rw [step_atom_of_endsAtom _ _ _ _ ending]
    rfl
  cases skipped with
  | nil => exact absurd rfl nonempty
  | @blank character rest allowed _ =>
      have ending : Lexeme.endsAtom character = true := by
        simp only [Lexeme.endsAtom, Lexeme.isBlank_of_isGap allowed, Bool.true_or]
      rw [run_cons, run_cons, ends character ending]
  | comment oneLine _ => rw [run_cons, run_cons, ends ';' rfl]

/-! ## Lexemes that do not touch -/

/-- A lexeme with a gap behind it is found, and nothing else. -/
theorem run_lexeme
    {lexeme : Lexeme}
    (written : lexeme.IsWritten)
    {gap : List Char}
    (isGap : IsGap gap) :
    run ⟨offset, .gap, found⟩ (lexeme.characters ++ gap) =
      ⟨offset + (lexeme.characters ++ gap).length, .gap, ⟨lexeme, offset⟩ :: found⟩ := by
  rw [run_append, List.length_append, ← Nat.add_assoc]
  cases lexeme with
  | opening => exact run_skipped _ _ isGap.2
  | closing => exact run_skipped _ _ isGap.2
  | marker => exact run_skipped _ _ isGap.2
  | literal body =>
      have quote : step ⟨offset, .gap, found⟩ '"' = ⟨offset + 1, .literal offset [], found⟩ := rfl
      have closing : run ⟨offset + 1 + body.length, .literal offset body.reverse, found⟩ ['"'] =
          ⟨offset + 1 + body.length + 1, .gap, ⟨.literal body.reverse.reverse, offset⟩ :: found⟩ :=
        rfl
      rw [Lexeme.characters, run_cons, quote, run_append, run_literalBody _ _ _ _ written,
        List.append_nil, closing, List.reverse_reverse, run_skipped _ _ isGap.2]
      simp only [List.length_cons, List.length_append, List.length_nil, Nat.add_assoc,
        Nat.add_comm 1]
  | atom name =>
      obtain ⟨nonempty, inside⟩ := written
      cases name with
      | nil => exact absurd rfl nonempty
      | cons first rest =>
          have begins : step ⟨offset, .gap, found⟩ first = ⟨offset + 1, .atom offset [first], found⟩ :=
            begin_of_endsAtom_eq_false offset found .gap (inside first List.mem_cons_self)
          rw [Lexeme.characters, run_cons, begins,
            run_atom _ _ _ _ fun other member => inside other (List.mem_cons_of_mem _ member),
            run_gap_after_atom _ _ _ _ isGap, run_skipped _ _ isGap.2, List.reverse_append,
            List.reverse_reverse, List.length_cons, Nat.add_right_comm offset 1]
          rfl

theorem run_spelled
    {placed : List PlacedLexeme}
    {before : List Char}
    (spelled : Spelled IsGap placed before)
    (written : ∀ lexeme ∈ placed, lexeme.lexeme.IsWritten)
    {gap : List Char}
    (isGap : IsGap gap) :
    run {} (before ++ gap) = ⟨(before ++ gap).length, .gap, placed.reverse⟩ := by
  induction spelled generalizing gap with
  | nil =>
      rw [List.nil_append, run_skipped 0 [] isGap.2, Nat.zero_add]
      rfl
  | snoc _ between lexeme ih =>
      have earlier := ih (fun other member => written other (List.mem_append_left _ member)) between
      rw [List.append_assoc, run_append, earlier,
        run_lexeme _ _ (written _ (List.mem_append_right _ List.mem_cons_self)) isGap,
        List.reverse_append, ← List.length_append]
      rfl

end Scanner

/-- A text that is spelled with lexemes, and with gaps before and behind each, has these lexemes. -/
theorem scan_of_spelled
    {placed : List PlacedLexeme}
    {before : List Char}
    (spelled : Spelled IsGap placed before)
    (written : ∀ lexeme ∈ placed, lexeme.lexeme.IsWritten)
    {gap : List Char}
    (isGap : IsGap gap) :
    Lexemes.scan (before ++ gap) = ⟨placed, .complete⟩ := by
  rw [Lexemes.scan, Scanner.run_spelled spelled written isGap, Scanner.finish,
    List.reverse_reverse]

end Barrage.Document
