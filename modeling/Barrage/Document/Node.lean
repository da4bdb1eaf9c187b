import Barrage.Number.Numeral

/-!
# Expressions of a document

A document is one expression: a symbol, a number, a text, a list of
expressions, or an expression with a quote marker in front.  Quote markers
carry no meaning of their own.  Everything that asks what an expression is
looks through them.

An atom denotes an integer when it is written as one and lies in range, a
real number when it starts like a number and is a decimal numeral, and a
symbol in every other case.
-/

namespace Barrage.Document

open Barrage.Number

/-! ## Expressions -/

/-- An expression. -/
inductive Node
  | symbol (name : String)
  | integer (value : Int)
  | real (value : Float)
  | text (content : String)
  | list (items : List Node)
  /-- An expression with a quote marker in front. -/
  | quoted (inner : Node)

/-- What an expression is, once its quote markers are taken off. -/
inductive Kind
  | symbol
  | integer
  | real
  | text
  | list
deriving DecidableEq, Repr

/-- The word for a kind of expression. -/
def Kind.word : Kind → String
  | symbol => "symbol"
  | integer => "integer"
  | real => "float"
  | text => "string"
  | list => "list"

namespace Node

/-- The expression without the quote markers in front of it. -/
def unquoted : Node → Node
  | quoted inner => inner.unquoted
  | node => node

/-- The items of a list. -/
def items? : Node → Option (List Node)
  | list items => some items
  | quoted inner => inner.items?
  | _ => none

/-- The name of a symbol. -/
def symbol? : Node → Option String
  | symbol name => some name
  | quoted inner => inner.symbol?
  | _ => none

/-- Whether an expression is the symbol with this name. -/
def isSymbol
    (node : Node)
    (name : String) : Bool :=
  node.symbol? == some name

/-- What an expression is. -/
def kind : Node → Kind
  | symbol _ => .symbol
  | integer _ => .integer
  | real _ => .real
  | text _ => .text
  | list _ => .list
  | quoted inner => inner.kind

/-- An expression with a number of quote markers in front. -/
def quotedTimes : Nat → Node → Node
  | 0, node => node
  | count + 1, node => quoted (quotedTimes count node)

/-! ## Comparison -/

mutual

/-- Whether two expressions are written alike.  Real numbers compare as numbers. -/
def same : Node → Node → Bool
  | symbol left, symbol right => left == right
  | integer left, integer right => left == right
  | real left, real right => left == right
  | text left, text right => left == right
  | list left, list right => sameItems left right
  | quoted left, quoted right => left.same right
  | _, _ => false

/-- Whether two lists hold the same expressions in the same order. -/
def sameItems : List Node → List Node → Bool
  | [], [] => true
  | left :: leftRest, right :: rightRest => left.same right && sameItems leftRest rightRest
  | _, _ => false

end

instance : BEq Node := ⟨same⟩

/-! ## What lexemes denote -/

/-- Whether an atom starts like a number: an optional sign, an optional point, a digit. -/
def startsLikeNumber (name : List Char) : Bool :=
  let unsigned := (Sign.split name).2
  let afterPoint :=
    match unsigned with
    | '.' :: rest => rest
    | rest => rest
  match afterPoint with
  | [] => false
  | first :: _ => isDigit first

/-- The expression that an atom denotes. -/
def ofAtom (name : List Char) : Node :=
  if startsLikeNumber name then
    match (integer? name).filter isDocumentInteger, Numeral.read? name with
    | some value, _ => integer value
    | none, some numeral => real numeral.value
    | none, none => symbol (String.ofList name)
  else symbol (String.ofList name)

/-- Continue `unescape` after the characters read so far, which are newest first. -/
def unescapeOnto (newestFirst : List Char) : List Char → List Char
  | [] => newestFirst.reverse
  | '\\' :: 'n' :: rest => unescapeOnto ('\n' :: newestFirst) rest
  | '\\' :: 't' :: rest => unescapeOnto ('\t' :: newestFirst) rest
  | '\\' :: character :: rest => unescapeOnto (character :: newestFirst) rest
  | ['\\'] => newestFirst.reverse
  | character :: rest => unescapeOnto (character :: newestFirst) rest

/--
The characters that the body of a literal denotes.  A backslash is dropped
and the character after it stands for itself, but `n` stands for a line feed
and `t` for a tab.
-/
def unescape (body : List Char) : List Char :=
  unescapeOnto [] body

/-- The text that a literal denotes. -/
def ofLiteral (body : List Char) : Node :=
  text (String.ofList (unescape body))

/-! ## Looking through quote markers -/

@[simp]
theorem unquoted_quoted (inner : Node) : (quoted inner).unquoted = inner.unquoted := rfl

@[simp]
theorem items?_unquoted (node : Node) : node.unquoted.items? = node.items? := by
  induction node using unquoted.induct with
  | case1 inner ih => simpa [items?] using ih
  | case2 node notQuoted => rw [unquoted]; exact notQuoted

@[simp]
theorem symbol?_unquoted (node : Node) : node.unquoted.symbol? = node.symbol? := by
  induction node using unquoted.induct with
  | case1 inner ih => simpa [symbol?] using ih
  | case2 node notQuoted => rw [unquoted]; exact notQuoted

@[simp]
theorem kind_unquoted (node : Node) : node.unquoted.kind = node.kind := by
  induction node using unquoted.induct with
  | case1 inner ih => simpa [kind] using ih
  | case2 node notQuoted => rw [unquoted]; exact notQuoted

/-- Taking the markers off twice is the same as taking them off once. -/
@[simp]
theorem unquoted_unquoted (node : Node) : node.unquoted.unquoted = node.unquoted := by
  induction node using unquoted.induct with
  | case1 inner ih => simpa using ih
  | case2 node notQuoted =>
      have bare : node.unquoted = node := by rw [unquoted]; exact notQuoted
      rw [bare, bare]

end Node

end Barrage.Document
