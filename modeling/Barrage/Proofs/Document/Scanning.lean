import Barrage.Proofs.Document.Spelling

/-!
# What the scanner has read

However far the scanner has come, what it has read is spelled with the lexemes
that it has found, a gap, and the beginning of what it is in the middle of
(`Scanner.Reads`).  One character more keeps this, unless the scanner has
stopped, and then it ignores whatever follows.

So the lexemes of a text are those that it is spelled with, and each of them can
stand in a text.  What is appended to a text may finish or prolong its last
lexeme.  It takes none away that is complete, and it does not make a scanner
go on that has stopped.
-/

namespace Barrage.Document

open Barrage.Text

/-! ## Stopping -/

/-- The scanner will read nothing more. -/
def Scanner.IsStopped (scanner : Scanner) : Prop :=
  ∃ start obstacle, scanner.mode = .stopped start obstacle

namespace Scanner

variable {scanner : Scanner} {text : List Char}

theorem step_of_isStopped
    (stopped : scanner.IsStopped)
    (character : Char) :
    scanner.step character = scanner := by
  obtain ⟨start, obstacle, mode⟩ := stopped
  rw [step, mode]

theorem run_of_isStopped
    (stopped : scanner.IsStopped)
    (text : List Char) :
    scanner.run text = scanner := by
  induction text with
  | nil => rfl
  | cons character rest ih => rw [run_cons, step_of_isStopped stopped, ih]

/-! ## The invariant -/

/-- The beginning of what the scanner is in the middle of, which starts at an offset. -/
inductive Unfinished (start : Nat) : ScanMode → List Char → Prop
  | gap : Unfinished start .gap []
  | comment
      {words : List Char}
      (oneLine : '\n' ∉ words) :
      Unfinished start .comment (';' :: words)
  | atom
      {newestFirst : List Char}
      (nonempty : newestFirst ≠ [])
      (inside : ∀ character ∈ newestFirst, Lexeme.endsAtom character = false) :
      Unfinished start (.atom start newestFirst) newestFirst.reverse
  | literal
      {newestFirst : List Char}
      (body : LiteralBody newestFirst.reverse) :
      Unfinished start (.literal start newestFirst) ('"' :: newestFirst.reverse)
  | escape
      {newestFirst : List Char}
      (body : LiteralBody newestFirst.reverse) :
      Unfinished start (.escape start ('\\' :: newestFirst))
        ('"' :: (newestFirst.reverse ++ ['\\']))
  /-- A blank character that may not stand in a gap. -/
  | stray
      {character : Char}
      (blank : isBlank character = true)
      (notGap : Lexeme.isGap character = false) :
      Unfinished start (.stopped start (.strayCharacter character)) [character]
  /-- A literal in which a line end is escaped. -/
  | broken
      {body : List Char}
      (isBody : LiteralBody body) :
      Unfinished start (.stopped start .unterminatedLiteral) ('"' :: (body ++ ['\\', '\n']))

/-- A text is spelled with lexemes, newest first, and what stands behind them is a gap. -/
structure UpToGap
    (found : List PlacedLexeme)
    (before gap : List Char) : Prop where
  written : ∀ placed ∈ found, placed.lexeme.IsWritten
  spelled : Spelled Skipped found.reverse before
  skipped : Skipped gap

/-- The scanner has read this text: the invariant of scanning. -/
structure Reads
    (scanner : Scanner)
    (text : List Char) : Prop where
  offset_eq : scanner.offset = text.length
  split :
    ∃ before gap rest,
      text = before ++ gap ++ rest ∧
        UpToGap scanner.newestFirst before gap ∧
        Unfinished (before ++ gap).length scanner.mode rest

theorem reads_start : Reads {} [] := by
  refine ⟨rfl, [], [], [], rfl, ⟨?_, .nil, .nil⟩, .gap⟩
  intro placed member
  cases member

/-! ## One character more -/

theorem length_snoc
    (before rest : List Char)
    (character : Char) :
    (before ++ rest).length + 1 = (before ++ (rest ++ [character])).length := by
  simp only [List.length_append, List.length_singleton, Nat.add_assoc]

namespace UpToGap

variable {found : List PlacedLexeme} {before gap : List Char}

theorem reads
    (upToGap : UpToGap found before gap)
    {offset : Nat}
    {mode : ScanMode}
    {rest : List Char}
    (offset_eq : offset = (before ++ gap ++ rest).length)
    (unfinished : Unfinished (before ++ gap).length mode rest) :
    Reads ⟨offset, mode, found⟩ (before ++ gap ++ rest) :=
  ⟨offset_eq, before, gap, rest, rfl, upToGap, unfinished⟩

/-- The gap goes on. -/
theorem reads_skip
    (upToGap : UpToGap found before gap)
    {offset : Nat}
    {more : List Char}
    (offset_eq : offset = (before ++ gap ++ more).length)
    (skipped : Skipped more) :
    Reads ⟨offset, .gap, found⟩ (before ++ gap ++ more) := by
  have longer : UpToGap found before (gap ++ more) :=
    { upToGap with skipped := upToGap.skipped.append skipped }
  have reads := longer.reads (by simpa using offset_eq) .gap
  simpa using reads

/-- A lexeme behind the gap is complete. -/
theorem emit
    (upToGap : UpToGap found before gap)
    {lexeme : Lexeme}
    (written : lexeme.IsWritten) :
    UpToGap (⟨lexeme, (before ++ gap).length⟩ :: found) (before ++ gap ++ lexeme.characters) [] := by
  constructor
  case written =>
    intro placed member
    rcases List.mem_cons.mp member with rfl | earlier
    · exact written
    · exact upToGap.written placed earlier
  case spelled =>
    rw [List.reverse_cons]
    exact .snoc upToGap.spelled upToGap.skipped lexeme
  case skipped => exact .nil

theorem reads_emit
    (upToGap : UpToGap found before gap)
    {offset : Nat}
    {lexeme : Lexeme}
    (offset_eq : offset = (before ++ gap ++ lexeme.characters).length)
    (written : lexeme.IsWritten) :
    Reads ⟨offset, .gap, ⟨lexeme, (before ++ gap).length⟩ :: found⟩
      (before ++ gap ++ lexeme.characters) := by
  have reads := (upToGap.emit written).reads (by simpa using offset_eq) .gap
  simpa using reads

/-- Whatever follows a gap, the scanner takes it for the beginning of something. -/
theorem begin
    (upToGap : UpToGap found before gap)
    (mode : ScanMode)
    (character : Char) :
    (Scanner.begin ⟨(before ++ gap).length, mode, found⟩ character).Reads
      (before ++ gap ++ [character]) := by
  have next : (before ++ gap).length + 1 = (before ++ gap ++ [character]).length := by
    simpa using length_snoc (before ++ gap) [] character
  induction character using Lexeme.character_cases with
  | opening => exact upToGap.reads_emit next (show Lexeme.opening.IsWritten from trivial)
  | closing => exact upToGap.reads_emit next (show Lexeme.closing.IsWritten from trivial)
  | marker => exact upToGap.reads_emit next (show Lexeme.marker.IsWritten from trivial)
  | quote =>
      have begun (start : Nat) : Unfinished start (.literal start []) ['"'] := .literal .nil
      exact upToGap.reads next (begun _)
  | semicolon =>
      have begun (start : Nat) : Unfinished start .comment [';'] := .comment List.not_mem_nil
      exact upToGap.reads next (begun _)
  | gap character allowed =>
      rw [begin_of_isGap _ _ _ allowed]
      exact upToGap.reads_skip next (.blank allowed .nil)
  | stray character blank notGap =>
      rw [begin_of_stray _ _ _ blank notGap]
      exact upToGap.reads next (.stray blank notGap)
  | atom character inside =>
      rw [begin_of_endsAtom_eq_false _ _ _ inside]
      have begun (start : Nat) : Unfinished start (.atom start [character]) [character] :=
        .atom (List.cons_ne_nil _ _) (by simpa using inside)
      exact upToGap.reads next (begun _)

theorem step_comment
    (upToGap : UpToGap found before gap)
    {words : List Char}
    (oneLine : '\n' ∉ words)
    (character : Char) :
    (Scanner.step ⟨(before ++ gap ++ ';' :: words).length, .comment, found⟩ character).Reads
      (before ++ gap ++ (';' :: words ++ [character])) := by
  have next := length_snoc (before ++ gap) (';' :: words) character
  by_cases lineFeed : character = '\n'
  · rw [lineFeed] at next ⊢
    exact upToGap.reads_skip next (.comment oneLine .nil)
  · rw [step_comment_of_ne _ _ lineFeed]
    refine upToGap.reads next (.comment ?_)
    simpa using ⟨oneLine, Ne.symm lineFeed⟩

theorem step_atom
    (upToGap : UpToGap found before gap)
    {newestFirst : List Char}
    (nonempty : newestFirst ≠ [])
    (inside : ∀ character ∈ newestFirst, Lexeme.endsAtom character = false)
    (character : Char) :
    (Scanner.step
        ⟨(before ++ gap ++ newestFirst.reverse).length,
          .atom (before ++ gap).length newestFirst, found⟩
        character).Reads
      (before ++ gap ++ (newestFirst.reverse ++ [character])) := by
  cases ends : Lexeme.endsAtom character with
  | true =>
      have written : (Lexeme.atom newestFirst.reverse).IsWritten :=
        ⟨by simpa using nonempty, by simpa using inside⟩
      have begun := (upToGap.emit written).begin (.atom (before ++ gap).length newestFirst) character
      rw [List.append_nil] at begun
      rw [step_atom_of_endsAtom _ _ _ _ ends, ← List.append_assoc]
      exact begun
  | false =>
      have next := length_snoc (before ++ gap) newestFirst.reverse character
      rw [← List.reverse_cons] at next ⊢
      rw [step_atom_of_inside _ _ _ _ ends]
      refine upToGap.reads next (.atom (List.cons_ne_nil _ _) ?_)
      intro other member
      rcases List.mem_cons.mp member with rfl | earlier
      · exact ends
      · exact inside other earlier

theorem step_literal
    (upToGap : UpToGap found before gap)
    {newestFirst : List Char}
    (body : LiteralBody newestFirst.reverse)
    (character : Char) :
    (Scanner.step
        ⟨(before ++ gap ++ '"' :: newestFirst.reverse).length,
          .literal (before ++ gap).length newestFirst, found⟩
        character).Reads
      (before ++ gap ++ ('"' :: newestFirst.reverse ++ [character])) := by
  have next := length_snoc (before ++ gap) ('"' :: newestFirst.reverse) character
  rw [List.cons_append] at next ⊢
  by_cases quote : character = '"'
  · rw [quote] at next ⊢
    exact upToGap.reads_emit next (show (Lexeme.literal newestFirst.reverse).IsWritten from body)
  by_cases backslash : character = '\\'
  · rw [backslash] at next ⊢
    exact upToGap.reads next (.escape body)
  · have longer : LiteralBody (character :: newestFirst).reverse := by
      rw [List.reverse_cons]
      exact body.append (.plain quote backslash .nil)
    rw [← List.reverse_cons] at next ⊢
    rw [step_literal_of_ne _ _ _ _ quote backslash]
    exact upToGap.reads next (.literal longer)

theorem step_escape
    (upToGap : UpToGap found before gap)
    {newestFirst : List Char}
    (body : LiteralBody newestFirst.reverse)
    (character : Char) :
    (Scanner.step
        ⟨(before ++ gap ++ '"' :: (newestFirst.reverse ++ ['\\'])).length,
          .escape (before ++ gap).length ('\\' :: newestFirst), found⟩
        character).Reads
      (before ++ gap ++ ('"' :: (newestFirst.reverse ++ ['\\']) ++ [character])) := by
  have next := length_snoc (before ++ gap) ('"' :: (newestFirst.reverse ++ ['\\'])) character
  rw [List.cons_append] at next ⊢
  by_cases lineFeed : character = '\n'
  · rw [lineFeed, List.append_assoc newestFirst.reverse] at next ⊢
    exact upToGap.reads next (.broken body)
  · have longer : LiteralBody (character :: '\\' :: newestFirst).reverse := by
      rw [List.reverse_cons, List.reverse_cons, List.append_assoc]
      exact body.append (.escape lineFeed .nil)
    rw [← List.reverse_cons, ← List.reverse_cons] at next ⊢
    rw [step_escape_of_ne _ _ _ _ lineFeed]
    exact upToGap.reads next (.literal longer)

end UpToGap

/-- What has been read and a character more, unless the scanner has stopped. -/
theorem Reads.step
    (reads : scanner.Reads text)
    (going : ¬ scanner.IsStopped)
    (character : Char) :
    (scanner.step character).Reads (text ++ [character]) := by
  obtain ⟨offset, mode, found⟩ := scanner
  obtain ⟨offset_eq, before, gap, rest, rfl, upToGap, unfinished⟩ := reads
  dsimp only at offset_eq upToGap unfinished
  rw [offset_eq, List.append_assoc (before ++ gap)]
  cases unfinished with
  | gap =>
      rw [List.append_nil]
      exact upToGap.begin .gap character
  | comment oneLine => exact upToGap.step_comment oneLine character
  | atom nonempty inside => exact upToGap.step_atom nonempty inside character
  | literal body => exact upToGap.step_literal body character
  | escape body => exact upToGap.step_escape body character
  | stray _ _ => exact absurd ⟨_, _, rfl⟩ going
  | broken _ => exact absurd ⟨_, _, rfl⟩ going

/-! ## A whole text -/

/-- The scanner reads a text to its end, or up to the place where it stops. -/
theorem Reads.run
    {before : List Char}
    (reads : scanner.Reads before)
    (text : List Char) :
    ∃ read ignored,
      before ++ text = read ++ ignored ∧
        (scanner.run text).Reads read ∧
        (¬ (scanner.run text).IsStopped → ignored = []) := by
  induction text generalizing scanner before with
  | nil => exact ⟨before, [], rfl, reads, fun _ => rfl⟩
  | cons character rest ih =>
      by_cases stopped : scanner.IsStopped
      · rw [run_of_isStopped stopped]
        exact ⟨before, character :: rest, rfl, reads, fun going => absurd stopped going⟩
      · obtain ⟨read, ignored, same, readsAll, whole⟩ := ih (reads.step stopped character)
        rw [List.append_assoc, List.singleton_append] at same
        exact ⟨read, ignored, same, readsAll, whole⟩

/-! ## What is appended to a text -/

theorem newestFirst_suffix_begin
    (scanner : Scanner)
    (character : Char) :
    scanner.newestFirst <:+ (scanner.begin character).newestFirst := by
  obtain ⟨offset, mode, found⟩ := scanner
  induction character using Lexeme.character_cases with
  | opening | closing | marker => exact List.suffix_cons _ _
  | quote | semicolon => exact List.suffix_refl _
  | gap character allowed =>
      simp only [begin_of_isGap _ _ _ allowed, List.suffix_refl]
  | stray character blank notGap =>
      simp only [begin_of_stray _ _ _ blank notGap, List.suffix_refl]
  | atom character inside =>
      simp only [begin_of_endsAtom_eq_false _ _ _ inside, List.suffix_refl]

theorem newestFirst_suffix_step
    (scanner : Scanner)
    (character : Char) :
    scanner.newestFirst <:+ (scanner.step character).newestFirst := by
  obtain ⟨offset, mode, found⟩ := scanner
  cases mode with
  | gap => exact newestFirst_suffix_begin _ character
  | comment => by_cases ends : character = '\n' <;> simp [step, ends]
  | atom start read =>
      cases ends : Lexeme.endsAtom character with
      | true =>
          rw [step_atom_of_endsAtom _ _ _ _ ends]
          exact (List.suffix_cons _ found).trans (newestFirst_suffix_begin ⟨_, _, _⟩ character)
      | false =>
          simp only [step_atom_of_inside _ _ _ _ ends, List.suffix_refl]
  | literal start read =>
      by_cases quote : character = '"'
      · rw [quote]
        exact List.suffix_cons _ _
      · by_cases backslash : character = '\\' <;> simp [step, quote, backslash]
  | escape start read => by_cases breaks : character = '\n' <;> simp [step, breaks]
  | stopped start obstacle => exact List.suffix_refl _

/-- A complete lexeme is not taken back. -/
theorem newestFirst_suffix_run
    (scanner : Scanner)
    (text : List Char) :
    scanner.newestFirst <:+ (scanner.run text).newestFirst := by
  induction text generalizing scanner with
  | nil => exact List.suffix_refl _
  | cons character rest ih =>
      rw [run_cons]
      exact (scanner.newestFirst_suffix_step character).trans (ih _)

/-- At the end of the text at most an atom is added. -/
theorem found_finish (scanner : Scanner) :
    ∃ rest,
      scanner.finish.found = scanner.newestFirst.reverse ++ rest ∧
        ∀ placed ∈ rest, ∃ name, placed.lexeme = .atom name := by
  obtain ⟨offset, mode, found⟩ := scanner
  cases mode with
  | atom start read =>
      refine ⟨[⟨.atom read.reverse, start⟩], List.reverse_cons, ?_⟩
      intro placed member
      rw [List.mem_singleton.mp member]
      exact ⟨read.reverse, rfl⟩
  | _ => exact ⟨[], (List.append_nil _).symm, by simp⟩

end Scanner

/-! ## The lexemes of a text -/

namespace Lexemes

/-- The scanner at the end of a text, and the part of the text that it has read. -/
theorem exists_reads (text : List Char) :
    ∃ read ignored,
      text = read ++ ignored ∧
        (Scanner.run {} text).Reads read ∧
        (¬ (Scanner.run {} text).IsStopped → ignored = []) :=
  Scanner.reads_start.run text

/-- A text without an obstacle is spelled with its lexemes, up to a gap or a last comment. -/
theorem spelled_of_complete
    {text : List Char}
    (complete : (scan text).ending = .complete) :
    (∀ placed ∈ (scan text).found, placed.lexeme.IsWritten) ∧
      ∃ before last,
        text = before ++ last ∧
          Spelled Skipped (scan text).found before ∧
          Skipped (last ++ ['\n']) := by
  obtain ⟨read, ignored, rfl, reads, whole⟩ := exists_reads text
  rw [scan] at complete ⊢
  generalize Scanner.run {} (read ++ ignored) = scanner at complete reads whole ⊢
  have notStopped : ¬ scanner.IsStopped := by
    rintro ⟨start, obstacle, stopped⟩
    rw [Scanner.finish, stopped] at complete
    cases complete
  rw [whole notStopped, List.append_nil]
  obtain ⟨offset, mode, found⟩ := scanner
  obtain ⟨-, before, gap, rest, rfl, upToGap, unfinished⟩ := reads
  have lineFeed : Skipped ['\n'] := .blank rfl .nil
  have written : ∀ placed ∈ found.reverse, placed.lexeme.IsWritten := by
    simpa using upToGap.written
  dsimp only at unfinished
  cases unfinished with
  | gap =>
      rw [List.append_nil]
      exact ⟨written, before, gap, rfl, upToGap.spelled, upToGap.skipped.append lineFeed⟩
  | @comment words oneLine =>
      refine ⟨written, before, gap ++ ';' :: words, List.append_assoc _ _ _, upToGap.spelled, ?_⟩
      rw [List.append_assoc]
      exact upToGap.skipped.append (.comment oneLine .nil)
  | @atom newestFirst nonempty inside =>
      have isAtom : (Lexeme.atom newestFirst.reverse).IsWritten :=
        ⟨by simpa using nonempty, by simpa using inside⟩
      have emitted := upToGap.emit isAtom
      refine ⟨?_, _, [], (List.append_nil _).symm, emitted.spelled, lineFeed⟩
      intro placed member
      exact emitted.written placed (List.mem_reverse.mp member)
  | literal _ | escape _ | stray _ _ | broken _ => cases complete

/-- All places that were found in a text of some length lie inside it. -/
structure Within
    (lexemes : Lexemes)
    (length : Nat) : Prop where
  offset_le : ∀ placed ∈ lexemes.found, placed.offset ≤ length
  stopped_le : ∀ offset obstacle, lexemes.ending = .stopped offset obstacle → offset ≤ length

theorem within_finish
    {scanner : Scanner}
    {text : List Char}
    (reads : scanner.Reads text) :
    scanner.finish.Within text.length := by
  obtain ⟨offset, mode, found⟩ := scanner
  obtain ⟨-, before, gap, rest, rfl, upToGap, unfinished⟩ := reads
  have start_le : (before ++ gap).length ≤ (before ++ gap ++ rest).length :=
    (List.prefix_append _ _).length_le
  have found_le : ∀ placed ∈ found.reverse, placed.offset ≤ (before ++ gap ++ rest).length := by
    intro placed member
    have early := upToGap.spelled.offset_le placed member
    exact Nat.le_trans early (Nat.le_trans (List.prefix_append _ _).length_le start_le)
  dsimp only at unfinished
  cases unfinished with
  | gap | comment _ => exact ⟨found_le, fun _ _ impossible => nomatch impossible⟩
  | literal _ | escape _ | stray _ _ | broken _ =>
      refine ⟨found_le, fun offset obstacle stopped => ?_⟩
      cases stopped
      exact start_le
  | atom _ _ =>
      refine ⟨fun placed member => ?_, fun _ _ impossible => nomatch impossible⟩
      rcases List.mem_cons.mp (List.mem_reverse.mp member) with rfl | earlier
      · exact start_le
      · exact found_le placed (List.mem_reverse.mpr earlier)

theorem within_scan (text : List Char) : (scan text).Within text.length := by
  obtain ⟨read, ignored, rfl, reads, -⟩ := exists_reads text
  have within := within_finish reads
  have shorter : read.length ≤ (read ++ ignored).length := (List.prefix_append _ _).length_le
  exact
    ⟨fun placed member => Nat.le_trans (within.offset_le placed member) shorter,
      fun offset obstacle stopped =>
        Nat.le_trans (within.stopped_le offset obstacle stopped) shorter⟩

end Lexemes

/-! ## Places in the text -/

/-- The character at which a text cannot be read. -/
def Obstacle.character : Obstacle → Char
  | unterminatedLiteral => '"'
  | strayCharacter character => character

/-- What was found in a text starts there, and so does what could not be read. -/
structure Lexemes.StartsIn
    (lexemes : Lexemes)
    (text : List Char) : Prop where
  found : ∀ placed ∈ lexemes.found, placed.lexeme.characters <+: text.drop placed.offset
  stopped :
    ∀ offset obstacle,
      lexemes.ending = .stopped offset obstacle → text[offset]? = some obstacle.character

theorem prefix_drop_append
    {text characters : List Char}
    {offset : Nat}
    (inside : offset ≤ text.length)
    (starts : characters <+: text.drop offset)
    (more : List Char) :
    characters <+: (text ++ more).drop offset := by
  rw [List.drop_append_of_le_length inside]
  exact starts.trans (List.prefix_append _ _)

/-- Each lexeme is written where it is placed. -/
theorem Spelled.prefix_drop
    {gaps : List Char → Prop}
    {found : List PlacedLexeme}
    {text : List Char}
    (spelled : Spelled gaps found text) :
    ∀ placed ∈ found, placed.lexeme.characters <+: text.drop placed.offset := by
  induction spelled with
  | nil => simp
  | @snoc found before gap earlier between lexeme ih =>
      intro placed member
      rcases List.mem_append.mp member with old | new
      · rw [List.append_assoc]
        exact prefix_drop_append (earlier.offset_le placed old) (ih placed old) _
      · rw [List.mem_singleton.mp new]
        simp only [List.drop_left, List.prefix_refl]

theorem Scanner.Reads.startsIn
    {scanner : Scanner}
    {text : List Char}
    (reads : scanner.Reads text) :
    scanner.finish.StartsIn text := by
  obtain ⟨offset, mode, found⟩ := scanner
  obtain ⟨-, before, gap, rest, rfl, upToGap, unfinished⟩ := reads
  dsimp only at upToGap unfinished
  have starts : ∀ placed ∈ found.reverse,
      placed.lexeme.characters <+: (before ++ gap ++ rest).drop placed.offset := by
    intro placed member
    rw [List.append_assoc]
    exact
      prefix_drop_append (upToGap.spelled.offset_le placed member)
        (upToGap.spelled.prefix_drop placed member) _
  cases unfinished with
  | gap | comment _ => exact ⟨starts, fun _ _ impossible => nomatch impossible⟩
  | @atom newestFirst nonempty inside =>
      have written : (Lexeme.atom newestFirst.reverse).IsWritten :=
        ⟨by simpa using nonempty, by simpa using inside⟩
      exact ⟨(upToGap.emit written).spelled.prefix_drop, fun _ _ impossible => nomatch impossible⟩
  | literal _ | escape _ | stray _ _ | broken _ =>
      refine ⟨starts, fun offset obstacle stopped => ?_⟩
      cases stopped
      rw [List.getElem?_append_right (Nat.le_refl _), Nat.sub_self]
      rfl

theorem Lexemes.startsIn_scan (text : List Char) : (scan text).StartsIn text := by
  obtain ⟨read, ignored, rfl, reads, -⟩ := exists_reads text
  have starts := reads.startsIn
  have within := within_finish reads
  constructor
  case found =>
    intro placed member
    exact prefix_drop_append (within.offset_le placed member) (starts.found placed member) ignored
  case stopped =>
    intro offset obstacle stopped
    have here := starts.stopped offset obstacle stopped
    obtain ⟨inside, -⟩ := List.getElem?_eq_some_iff.mp here
    rw [List.getElem?_append_left inside]
    exact here

end Barrage.Document
