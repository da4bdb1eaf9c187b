import Barrage.Json.Syntax
import Barrage.Json.Token

/-!
# Reading a JSON text

The tokens of a JSON text are read from left to right into one value.  The
reader keeps the arrays and objects that are open, innermost first, and what
has to come next.  No depth of nesting is refused.
-/

namespace Barrage.Json

/-- An array or an object whose closing mark has not been read. -/
inductive Frame
  | array (newestFirst : List Json)
  /-- An object, with the last key that was read. -/
  | object (newestFirst : List (List Char × Json)) (key : List Char)

/-- What has to come next. -/
inductive Expectation
  | value
  | valueOrClosing
  | key
  | keyOrClosing
  | colon
  /-- A comma or a closing mark. -/
  | separator
  | nothing
deriving DecidableEq, Repr

/-- The reader between two tokens. -/
structure TreeReader where
  /-- The open arrays and objects, innermost first. -/
  frames : List Frame := []
  expectation : Expectation := .value
  /-- The complete value. -/
  result : Option Json := none

namespace TreeReader

/-- Put a complete value where it belongs, given the arrays and objects around it. -/
def place
    (frames : List Frame)
    (value : Json) : TreeReader :=
  match frames with
  | [] => ⟨[], .nothing, some value⟩
  | .array items :: outer => ⟨.array (value :: items) :: outer, .separator, none⟩
  | .object members key :: outer =>
      ⟨.object ((key, value) :: members) key :: outer, .separator, none⟩

/-- The value that a token is by itself. -/
def scalar? : Token → Option Json
  | .null => some .null
  | .boolean value => some (.boolean value)
  | .number token => some (.number token)
  | .text body => some (.text body)
  | _ => none

/-- Close the innermost array or object. -/
def close?
    (frames : List Frame)
    (token : Token) : Option TreeReader :=
  match frames, token with
  | .array items :: outer, .closeArray => some (place outer (.array items.reverse))
  | .object members _ :: outer, .closeObject => some (place outer (.object members.reverse))
  | _, _ => none

/-- Read the first token of a value. -/
def openValue?
    (frames : List Frame)
    (token : Token) : Option TreeReader :=
  match token with
  | .openArray => some ⟨.array [] :: frames, .valueOrClosing, none⟩
  | .openObject => some ⟨.object [] [] :: frames, .keyOrClosing, none⟩
  | _ => (scalar? token).map (place frames)

/-- Read the key of a member. -/
def readKey?
    (frames : List Frame)
    (token : Token) : Option TreeReader :=
  match frames, token with
  | .object members _ :: outer, .text key => some ⟨.object members key :: outer, .colon, none⟩
  | _, _ => none

/-- Read the comma after an item or a member. -/
def readComma? (frames : List Frame) : Option TreeReader :=
  match frames with
  | .array items :: outer => some ⟨.array items :: outer, .value, none⟩
  | .object members key :: outer => some ⟨.object members key :: outer, .key, none⟩
  | [] => none

/-- Read one token. -/
def step?
    (reader : TreeReader)
    (token : Token) : Option TreeReader :=
  match reader.expectation with
  | .value => openValue? reader.frames token
  | .valueOrClosing =>
      if token = .closeArray then close? reader.frames token else openValue? reader.frames token
  | .key => readKey? reader.frames token
  | .keyOrClosing =>
      if token = .closeObject then close? reader.frames token else readKey? reader.frames token
  | .colon => if token = .colon then some { reader with expectation := .value } else none
  | .separator =>
      if token = .comma then readComma? reader.frames else close? reader.frames token
  | .nothing => none

/-- Read a run of tokens. -/
def run?
    (reader : TreeReader)
    (tokens : List Token) : Option TreeReader :=
  tokens.foldlM step? reader

end TreeReader

/-- The value that a text holds, with nothing after it. -/
def read? (text : List Char) : Option Json := do
  let tokens ← tokens? text
  let reader ← TreeReader.run? {} tokens
  reader.result

end Barrage.Json
