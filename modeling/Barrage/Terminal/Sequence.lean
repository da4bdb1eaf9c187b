import Barrage.Terminal.Parameters

/-!
# Sequences

What a terminal tells, it sends as a sequence of bytes.  This module says what
a sequence tells.  A byte is held as the character with its code, so that a
character outside ASCII is a sequence of two to four.

A character is sent as it is.  An escape character opens every other sequence.

* After `O` or `[[` one letter follows, the name of a key.
* After `[` a letter alone may be the name of a key.
* After `[M` three bytes follow, and after `[<` anything up to an `M` or `m`:
  that is the mouse.
* After `[?` comes the answer to a question, up to a `u` or `c`.
* After `[` and a digit come parameters, up to a byte that can end them.  With
  `u` at the end they tell a key by number, with `R` they are an answer, and
  `[200~` opens a pasted text, which ends with a sequence of its own.
* Before any other character, the escape character says that the alternate key
  is held down, which makes no difference here.

An escape character alone is the escape key, if nothing more has been sent.
-/

namespace Barrage.Terminal

open Barrage.Number

/-! ## Readings -/

/-- Something that a terminal tells. -/
inductive Signal
  | key (key : Key)
  /-- An answer to a question about the terminal. -/
  | report
  /-- The mouse, a pasted text, or whether the terminal is in front. -/
  | other
deriving DecidableEq, Repr

/-- What bytes tell that have been read so far. -/
inductive Reading
  /-- A sequence goes on. -/
  | unfinished
  /-- No sequence is like this. -/
  | meaningless
  | complete (signal : Signal)
deriving DecidableEq, Repr

/-! ## Kinds of sequences -/

namespace Reading

/-- A sequence that tells something if it is as it has to be. -/
def completeIf
    (condition : Bool)
    (signal : Signal) : Reading :=
  if condition then complete signal else meaningless

/-- A key that is told by a letter, where only some letters tell one. -/
def ofLetter
    (letters : String)
    (letter : Char) : Reading :=
  completeIf (letters.toList.contains letter) (.key .other)

/-- Whether a byte is among those that stand after the first of a character. -/
def isContinuation (byte : Char) : Bool :=
  '\x80' ≤ byte && byte < '\xc0'

/-- Read a character. -/
def ofCharacter : List Char → Reading
  | [] => unfinished
  | first :: rest =>
      if first < '\x80' then complete (.key (.ofCharacter first))
      else if first < '\xc0' || '\xf8' ≤ first || !rest.all isContinuation then meaningless
      else
        let further := if first < '\xe0' then 1 else if first < '\xf0' then 2 else 3
        if rest.length < further then unfinished else complete (.key .other)

/-- Read an answer, which has at least one character before a `u`. -/
def ofAnswer (answer : List Char) : Reading :=
  if answer.getLast? = some 'c' ∨ (answer.getLast? = some 'u' ∧ 2 ≤ answer.length) then
    complete .report
  else unfinished

/-- Whether a byte ends parameters. -/
def endsParameters (byte : Char) : Bool :=
  '@' ≤ byte && byte ≤ '~'

/-- Read parameters and the byte that ends them. -/
def ofParameters (sequence : List Char) : Reading :=
  let parameters : Parameters := sequence.dropLast
  match sequence.getLast? with
  | none => unfinished
  | some final =>
      if !endsParameters final then unfinished
      else
        match final with
        | 'u' =>
            match parameters.key? with
            | some key => complete (.key key)
            | none => meaningless
        | 'R' => completeIf parameters.tellPosition .report
        | 'M' => completeIf (parameters.tellMouse 32) .other
        | '~' => completeIf parameters.tellListedKey (.key .other)
        | letter => completeIf (parameters.tellKeyWith letter) (.key .other)

/-- Read what a mouse does, as a byte, and the two bytes that tell where. -/
def ofMouse : List Char → Reading
  | action :: _ :: _ :: _ =>
      completeIf (' ' ≤ action && Parameters.isMouseAction (action.toNat - 32)) .other
  | _ => unfinished

/-- Read what a mouse does in parameters that end with one of two letters. -/
def ofMouseParameters (sequence : List Char) : Reading :=
  if sequence.getLast? = some 'M' ∨ sequence.getLast? = some 'm' then
    completeIf (Parameters.tellMouse 0 sequence.dropLast) .other
  else unfinished

/-- What opens a pasted text, after the escape character and the bracket. -/
def pasteOpening : List Char := "200~".toList

/-- What ends a pasted text. -/
def pasteEnding : List Char := "\x1b[201~".toList

/-- Read what follows an escape character and a bracket. -/
def ofBracketed : List Char → Reading
  | [] => unfinished
  | ['['] => unfinished
  | '[' :: letter :: _ => ofLetter "ABCDE" letter
  | 'M' :: rest => ofMouse rest
  | '<' :: rest => ofMouseParameters rest
  | '?' :: rest => ofAnswer rest
  | first :: rest =>
      if pasteOpening.isPrefixOf (first :: rest) then
        if pasteEnding.isSuffixOf rest then complete .other else unfinished
      else if isDigit first then ofParameters (first :: rest)
      else if first == 'I' || first == 'O' then complete .other
      else ofLetter "ABCDFHPQSZ" first

/-- Read what follows an escape character. -/
def ofEscaped : List Char → Reading
  | [] => unfinished
  | '\x1b' :: _ => complete (.key .escape)
  | '[' :: rest => ofBracketed rest
  | ['O'] => unfinished
  | 'O' :: letter :: _ => ofLetter "ABCDFHPQRS" letter
  | character => ofCharacter character

/--
Read the bytes of one sequence.  When `last` holds, nothing more has been
sent, and an escape character alone is the escape key.
-/
def ofSequence
    (last : Bool)
    (sequence : List Char) : Reading :=
  match sequence with
  | '\x1b' :: rest => if rest.isEmpty && last then complete (.key .escape) else ofEscaped rest
  | character => ofCharacter character

end Reading

end Barrage.Terminal
