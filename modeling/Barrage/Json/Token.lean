import Barrage.Json.Number
import Barrage.Json.Text

/-!
# Tokens of a JSON text

A JSON text is read one character at a time into tokens: the six marks,
texts, numbers and the three words.  Between tokens there may be spaces,
tabs, carriage returns and line feeds.  A text that cannot be divided in this
way has no tokens at all.
-/

namespace Barrage.Json

open Barrage.Number

/-- The smallest units of a JSON text. -/
inductive Token
  | openArray
  | closeArray
  | openObject
  | closeObject
  | comma
  | colon
  | null
  | boolean (value : Bool)
  | number (token : List Char)
  | text (body : List Char)
deriving DecidableEq, Repr

/-- Blank characters that may stand between tokens. -/
def isSpace (character : Char) : Bool :=
  character == ' ' || character == '\n' || character == '\t' || character == '\r'

/-- Characters that a number is written with. -/
def inNumber (character : Char) : Bool :=
  isDigit character || character == '-' || character == '+' || character == '.' ||
    character == 'e' || character == 'E'

/-- Characters that the three words are written with. -/
def inWord (character : Char) : Bool :=
  'a' ≤ character && character ≤ 'z'

/-- The token that a word stands for. -/
def Token.ofWord? (word : List Char) : Option Token :=
  if word = ['n', 'u', 'l', 'l'] then some null
  else if word = ['t', 'r', 'u', 'e'] then some (boolean true)
  else if word = ['f', 'a', 'l', 's', 'e'] then some (boolean false)
  else none

/-- The token that a run of characters of a number stands for. -/
def Token.ofNumber? (run : List Char) : Option Token :=
  (NumberForm.read? run).map fun _ => number run

/-- What the scanner is in the middle of.  The characters read are newest first. -/
inductive TokenMode
  | gap
  | word (newestFirst : List Char)
  | number (newestFirst : List Char)
  | text (newestFirst : List Char)
  /-- In a text, right after a backslash. -/
  | escape (newestFirst : List Char)
  /-- In an escape that lacks some hexadecimal digits. -/
  | unit (lacking : Nat) (newestFirst : List Char)
deriving DecidableEq, Repr

/-- The scanner between two characters. -/
structure TokenScanner where
  mode : TokenMode := .gap
  newestFirst : List Token := []
deriving DecidableEq, Repr

namespace TokenScanner

/-- Record a complete token. -/
def emit
    (scanner : TokenScanner)
    (token : Token) : TokenScanner :=
  { mode := .gap, newestFirst := token :: scanner.newestFirst }

/-- Read a character that continues no token. -/
def begin?
    (scanner : TokenScanner)
    (character : Char) : Option TokenScanner :=
  if isSpace character then some { scanner with mode := .gap }
  else if character == '[' then some (scanner.emit .openArray)
  else if character == ']' then some (scanner.emit .closeArray)
  else if character == '{' then some (scanner.emit .openObject)
  else if character == '}' then some (scanner.emit .closeObject)
  else if character == ',' then some (scanner.emit .comma)
  else if character == ':' then some (scanner.emit .colon)
  else if character == '"' then some { scanner with mode := .text [] }
  else if isDigit character || character == '-' then
    some { scanner with mode := .number [character] }
  else if inWord character then some { scanner with mode := .word [character] }
  else none

/-- Complete a word or a number. -/
def complete? (scanner : TokenScanner) : Option TokenScanner :=
  match scanner.mode with
  | .gap => some scanner
  | .word read => (Token.ofWord? read.reverse).map scanner.emit
  | .number read => (Token.ofNumber? read.reverse).map scanner.emit
  | .text _ | .escape _ | .unit _ _ => none

/-- Read one character. -/
def step?
    (scanner : TokenScanner)
    (character : Char) : Option TokenScanner :=
  match scanner.mode with
  | .gap => scanner.begin? character
  | .word read =>
      if inWord character then some { scanner with mode := .word (character :: read) }
      else scanner.complete?.bind (·.begin? character)
  | .number read =>
      if inNumber character then some { scanner with mode := .number (character :: read) }
      else scanner.complete?.bind (·.begin? character)
  | .text read =>
      if character == '"' then some (scanner.emit (.text read.reverse))
      else if character == '\\' then some { scanner with mode := .escape (character :: read) }
      else if character.toNat < 32 then none
      else some { scanner with mode := .text (character :: read) }
  | .escape read =>
      if character == 'u' then some { scanner with mode := .unit 4 (character :: read) }
      else if (escapedCharacter? character).isSome then
        some { scanner with mode := .text (character :: read) }
      else none
  | .unit lacking read =>
      if (hexDigit? character).isSome then
        match lacking with
        | 0 | 1 => some { scanner with mode := .text (character :: read) }
        | more + 1 => some { scanner with mode := .unit more (character :: read) }
      else none

/-- Read a run of characters. -/
def run?
    (scanner : TokenScanner)
    (text : List Char) : Option TokenScanner :=
  text.foldlM step? scanner

end TokenScanner

/-- The tokens of a text. -/
def tokens? (text : List Char) : Option (List Token) := do
  let scanner ← TokenScanner.run? {} text
  let complete ← scanner.complete?
  return complete.newestFirst.reverse

end Barrage.Json
