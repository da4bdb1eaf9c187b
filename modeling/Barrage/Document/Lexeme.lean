import Barrage.Text.Characters

/-!
# Lexemes of a document

A document is written with parentheses, quote markers, text literals between
double quotes, and atoms.  Spaces, tabs, line ends, form feeds and comments
from a semicolon to the end of the line stand between lexemes and mean
nothing.

`scan` reads a text one character at a time and finds all its lexemes, each
with the offset of its first character.  It stops at the first place that
starts no lexeme: a literal that is never closed, or a blank character that
is not one of those allowed between lexemes.
-/

namespace Barrage.Document

open Barrage.Text

/-! ## Lexemes -/

/-- The smallest units of a document that carry meaning. -/
inductive Lexeme
  /-- The parenthesis that opens a list. -/
  | opening
  /-- The parenthesis that closes a list. -/
  | closing
  /-- The mark that quotes the expression after it. -/
  | marker
  /-- A text literal: the characters between its quotes, as they are written. -/
  | literal (body : List Char)
  /-- A name or a number: a longest run of characters that mean nothing else. -/
  | atom (name : List Char)
deriving DecidableEq, Repr

namespace Lexeme

/-- The characters that a lexeme is written with. -/
def characters : Lexeme → List Char
  | opening => ['(']
  | closing => [')']
  | marker => ['\'']
  | literal body => '"' :: (body ++ ['"'])
  | atom name => name

/-- Blank characters that may stand between lexemes. -/
def isGap (character : Char) : Bool :=
  character == ' ' || character == '\t' || character == '\r' ||
    character == '\n' || character == '\x0c'

/-- Characters that no atom holds, so that each of them ends an atom. -/
def endsAtom (character : Char) : Bool :=
  isBlank character || character == '(' || character == ')' ||
    character == '\'' || character == '"' || character == ';'

end Lexeme

/-- A lexeme with the number of characters before it. -/
structure PlacedLexeme where
  lexeme : Lexeme
  offset : Nat
deriving DecidableEq, Repr

/-! ## The outcome of reading -/

/-- Why no lexeme can be read at some place. -/
inductive Obstacle
  /-- A text literal that is not closed, or in which a line end is escaped. -/
  | unterminatedLiteral
  /-- A blank character that may not stand between lexemes. -/
  | strayCharacter (character : Char)
deriving DecidableEq, Repr

/-- How the reading of a text came to its end. -/
inductive Ending
  /-- The whole text was read. -/
  | complete
  /-- Reading stopped at this offset. -/
  | stopped (offset : Nat) (obstacle : Obstacle)
deriving DecidableEq, Repr

/-- The lexemes of a text up to the place where reading ended. -/
structure Lexemes where
  found : List PlacedLexeme
  ending : Ending
deriving DecidableEq, Repr

/-! ## The scanner -/

/-- What the scanner is in the middle of. -/
inductive ScanMode
  /-- Between lexemes. -/
  | gap
  /-- In a comment. -/
  | comment
  /-- In an atom that started at an offset; its characters, newest first. -/
  | atom (start : Nat) (newestFirst : List Char)
  /-- In a text literal that started at an offset; its characters, newest first. -/
  | literal (start : Nat) (newestFirst : List Char)
  /-- In a text literal, right after a backslash that escapes the next character. -/
  | escape (start : Nat) (newestFirst : List Char)
  /-- Stopped for good. -/
  | stopped (start : Nat) (obstacle : Obstacle)
deriving DecidableEq, Repr

/-- The scanner between two characters of a text. -/
structure Scanner where
  /-- The number of characters read. -/
  offset : Nat := 0
  mode : ScanMode := .gap
  /-- The lexemes that are complete, newest first. -/
  newestFirst : List PlacedLexeme := []
deriving DecidableEq, Repr

namespace Scanner

/-- Record a complete lexeme. -/
def emit
    (scanner : Scanner)
    (lexeme : Lexeme)
    (start : Nat) : Scanner :=
  { scanner with newestFirst := ⟨lexeme, start⟩ :: scanner.newestFirst }

/-- Read a character that continues no lexeme. -/
def begin
    (scanner : Scanner)
    (character : Char) : Scanner :=
  let start := scanner.offset
  let next := { scanner with offset := start + 1, mode := .gap }
  if character == '(' then next.emit .opening start
  else if character == ')' then next.emit .closing start
  else if character == '\'' then next.emit .marker start
  else if character == '"' then { next with mode := .literal start [] }
  else if character == ';' then { next with mode := .comment }
  else if Lexeme.isGap character then next
  else if isBlank character then
    { next with mode := .stopped start (.strayCharacter character) }
  else { next with mode := .atom start [character] }

/-- Read one character. -/
def step
    (scanner : Scanner)
    (character : Char) : Scanner :=
  let next := { scanner with offset := scanner.offset + 1 }
  match scanner.mode with
  | .gap => scanner.begin character
  | .comment => if character == '\n' then { next with mode := .gap } else next
  | .atom start read =>
      if Lexeme.endsAtom character then
        (scanner.emit (.atom read.reverse) start).begin character
      else { next with mode := .atom start (character :: read) }
  | .literal start read =>
      if character == '"' then
        { next with mode := .gap }.emit (.literal read.reverse) start
      else if character == '\\' then { next with mode := .escape start (character :: read) }
      else { next with mode := .literal start (character :: read) }
  | .escape start read =>
      if character == '\n' then { next with mode := .stopped start .unterminatedLiteral }
      else { next with mode := .literal start (character :: read) }
  | .stopped _ _ => scanner

/-- What has been found when the text ends here. -/
def finish (scanner : Scanner) : Lexemes :=
  match scanner.mode with
  | .gap | .comment => ⟨scanner.newestFirst.reverse, .complete⟩
  | .atom start read =>
      ⟨(scanner.emit (.atom read.reverse) start).newestFirst.reverse, .complete⟩
  | .literal start _ | .escape start _ =>
      ⟨scanner.newestFirst.reverse, .stopped start .unterminatedLiteral⟩
  | .stopped start obstacle => ⟨scanner.newestFirst.reverse, .stopped start obstacle⟩

/-- Read a run of characters. -/
def run
    (scanner : Scanner)
    (text : List Char) : Scanner :=
  text.foldl step scanner

@[simp]
theorem run_nil (scanner : Scanner) : scanner.run [] = scanner := rfl

@[simp]
theorem run_cons
    (scanner : Scanner)
    (character : Char)
    (text : List Char) :
    scanner.run (character :: text) = (scanner.step character).run text := rfl

theorem run_append
    (scanner : Scanner)
    (before after : List Char) :
    scanner.run (before ++ after) = (scanner.run before).run after :=
  List.foldl_append

end Scanner

/-- The lexemes of a text. -/
def Lexemes.scan (text : List Char) : Lexemes :=
  (Scanner.run {} text).finish

end Barrage.Document
