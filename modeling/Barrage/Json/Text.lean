import Barrage.Number.Numeral

/-!
# Texts in JSON

Between the quotes of a JSON text a backslash starts an escape: a letter for
a common control character, a character that stands for itself, or a code
unit of UTF-16 in four hexadecimal digits.  A pair of surrogate code units
stands for one character.  A surrogate that is not part of a pair stands for
nothing, so that a text with such an escape has no content.
-/

namespace Barrage.Json

/-- The value of a hexadecimal digit. -/
def hexDigit? (character : Char) : Option Nat :=
  let code := character.toNat
  if '0' ≤ character && character ≤ '9' then some (code - '0'.toNat)
  else if 'a' ≤ character && character ≤ 'f' then some (code - 'a'.toNat + 10)
  else if 'A' ≤ character && character ≤ 'F' then some (code - 'A'.toNat + 10)
  else none

/-- The code unit that four hexadecimal digits denote. -/
def codeUnit? (first second third fourth : Char) : Option Nat := do
  let a ← hexDigit? first
  let b ← hexDigit? second
  let c ← hexDigit? third
  let d ← hexDigit? fourth
  return ((a * 16 + b) * 16 + c) * 16 + d

/-- Code units that open a pair. -/
def opensPair (unit : Nat) : Bool :=
  0xD800 ≤ unit && unit ≤ 0xDBFF

/-- Code units that close a pair. -/
def closesPair (unit : Nat) : Bool :=
  0xDC00 ≤ unit && unit ≤ 0xDFFF

/-- The character that a pair of code units stands for. -/
def pairedCharacter (opening closing : Nat) : Char :=
  Char.ofNat (0x10000 + (opening - 0xD800) * 0x400 + (closing - 0xDC00))

/-- The character that an escape with one letter stands for. -/
def escapedCharacter? (letter : Char) : Option Char :=
  match letter with
  | '"' => some '"'
  | '\\' => some '\\'
  | '/' => some '/'
  | 'b' => some '\x08'
  | 'f' => some '\x0c'
  | 'n' => some '\n'
  | 'r' => some '\r'
  | 't' => some '\t'
  | _ => none

/-- Continue `content?` after the characters found so far, which are newest first. -/
def contentOnto (newestFirst : List Char) : List Char → Option (List Char)
  | [] => some newestFirst.reverse
  | '\\' :: 'u' :: a :: b :: c :: d :: rest =>
      match codeUnit? a b c d with
      | none => none
      | some unit =>
          if opensPair unit then
            match rest with
            | '\\' :: 'u' :: e :: f :: g :: h :: rest =>
                match codeUnit? e f g h with
                | none => none
                | some closing =>
                    if closesPair closing then
                      contentOnto (pairedCharacter unit closing :: newestFirst) rest
                    else none
            | _ => none
          else if closesPair unit then none
          else contentOnto (Char.ofNat unit :: newestFirst) rest
  | '\\' :: letter :: rest =>
      match escapedCharacter? letter with
      | some character => contentOnto (character :: newestFirst) rest
      | none => none
  | ['\\'] => none
  | character :: rest => contentOnto (character :: newestFirst) rest

/-- The characters that the body of a text stands for. -/
def content? (body : List Char) : Option (List Char) :=
  contentOnto [] body

/-- A code unit below 32 as an escape with four hexadecimal digits. -/
def unitEscape (unit : Nat) : List Char :=
  ['\\', 'u', '0', '0', Nat.digitChar (unit / 16), Nat.digitChar (unit % 16)]

/-- How a character is written between the quotes. -/
def escapeCharacter (character : Char) : List Char :=
  match character with
  | '"' => ['\\', '"']
  | '\\' => ['\\', '\\']
  | '\x08' => ['\\', 'b']
  | '\x0c' => ['\\', 'f']
  | '\n' => ['\\', 'n']
  | '\r' => ['\\', 'r']
  | '\t' => ['\\', 't']
  | _ => if character.toNat < 32 then unitEscape character.toNat else [character]

/-- The body of the text with these characters. -/
def escape (content : List Char) : List Char :=
  content.flatMap escapeCharacter

end Barrage.Json
