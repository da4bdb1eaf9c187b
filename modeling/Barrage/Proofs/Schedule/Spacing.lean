import Barrage.Proofs.Document.Scanning
import Barrage.Proofs.Document.Spacing
import Barrage.Proofs.Schedule.Attempting

/-!
# Schedules and the layout of their texts

Blank characters and comments mean nothing.  If the gaps of a text are replaced
by others, its lexemes are found again, and it is loaded with the same outcome:
the same schedule, or a fault with the same cause.  Only the line and the column
of a fault in the syntax move with the lexemes.
-/

namespace Barrage.Schedule

open Barrage.Document

/-- Why a text is not a schedule, whatever line and column this is at. -/
def LoadFault.cause : LoadFault → SyntaxFault ⊕ Misshapen
  | malformed fault => .inl fault.fault
  | misshapen fault => .inr fault

/-- What lexemes are loaded as, wherever they stand. -/
def loadLexemes (lexemes : List Lexeme) : Except (SyntaxFault ⊕ Misshapen) Schedule :=
  ((readLexemes lexemes).mapError .inl).bind fun document =>
    ((build document).map (·.schedule)).mapError .inr

/-- A text without an obstacle is loaded for its lexemes alone. -/
theorem load_of_complete
    {text : List Char}
    (complete : (Lexemes.scan text).ending = .complete) :
    (load text).mapError LoadFault.cause =
      loadLexemes ((Lexemes.scan text).found.map (·.lexeme)) := by
  rw [loadLexemes, ← readDocument_of_complete complete, load, loadNoting_eq]
  cases readDocument text with
  | error fault => rfl
  | ok document =>
      change (((build document).mapError LoadFault.misshapen).map _).mapError _ =
        ((build document).map _).mapError _
      cases build document <;> rfl

/--
Layout has no meaning.  A text without an obstacle is its lexemes with skipped
text around them.  Whatever gaps are put in its place, the same lexemes are
found, and what is loaded differs at most in the position of a fault in the
syntax.
-/
theorem layout_has_no_meaning
    {text : List Char}
    (complete : (Lexemes.scan text).ending = .complete) :
    (∃ before last,
        text = before ++ last ∧
          Spelled Skipped (Lexemes.scan text).found before ∧
          Skipped (last ++ ['\n'])) ∧
      ∀ placed before last,
        Spelled IsGap placed before →
          IsGap last →
            placed.map (·.lexeme) = (Lexemes.scan text).found.map (·.lexeme) →
              Lexemes.scan (before ++ last) = ⟨placed, .complete⟩ ∧
                (load (before ++ last)).mapError LoadFault.cause =
                  (load text).mapError LoadFault.cause := by
  obtain ⟨written, spelledText⟩ := Lexemes.spelled_of_complete complete
  refine ⟨spelledText, fun placed before last spelled isGap sameLexemes => ?_⟩
  have writtenAgain : ∀ lexeme ∈ placed, lexeme.lexeme.IsWritten := by
    intro lexeme member
    have among := List.mem_map_of_mem (f := (·.lexeme)) member
    rw [sameLexemes] at among
    obtain ⟨original, found, same⟩ := List.mem_map.mp among
    rw [← same]
    exact written original found
  have scanned := scan_of_spelled spelled writtenAgain isGap
  have completeAgain : (Lexemes.scan (before ++ last)).ending = .complete := by rw [scanned]
  refine ⟨scanned, ?_⟩
  rw [load_of_complete completeAgain, scanned, sameLexemes, load_of_complete complete]

/-- A semicolon in a literal is none of a comment, and a quote in a comment none of a literal. -/
theorem layout_around_literal_has_no_meaning :
    Lexemes.scan ([' ', '\'', ';', '"', '\n', '"', ';', ' ', '"'] ++ ['\n']) =
        ⟨[⟨.marker, 1⟩, ⟨.literal [';', ' '], 5⟩], .complete⟩ ∧
      (load ([' ', '\'', ';', '"', '\n', '"', ';', ' ', '"'] ++ ['\n'])).mapError LoadFault.cause =
        (load ['\'', '"', ';', ' ', '"']).mapError LoadFault.cause := by
  have blank : IsGap [' '] := ⟨List.cons_ne_nil _ _, .blank rfl .nil⟩
  have lineFeed : IsGap ['\n'] := ⟨List.cons_ne_nil _ _, .blank rfl .nil⟩
  have oneLine : '\n' ∉ ['"'] := by decide
  have comment : IsGap [';', '"', '\n'] := ⟨List.cons_ne_nil _ _, .comment oneLine .nil⟩
  have marker := Spelled.snoc .nil blank .marker
  have literal := Spelled.snoc marker comment (.literal [';', ' '])
  exact (layout_has_no_meaning rfl).2 _ _ _ literal lineFeed rfl

end Barrage.Schedule
