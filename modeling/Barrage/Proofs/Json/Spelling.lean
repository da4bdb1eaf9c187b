import Barrage.Json.Syntax
import Barrage.Proofs.Json.Numbers

/-!
# How JSON texts are spelled

A text is spelled with tokens and with some blank characters between them.
Texts and marks end by themselves.  A number or a word needs something after it
that cannot belong to it.

The tokens of a text that is spelled with proper tokens are found again,
whatever blanks stand between them (`tokens?_of_spelled`).  Leaving out the
blanks leaves the tokens as they are written (`Spelled.filter`).
-/

namespace Barrage.Json

open Barrage.Number

/-! ## Tokens -/

/-- What stands between the quotes of a text: a backslash starts an escape. -/
inductive TextBody : List Char → Prop
  | nil : TextBody []
  | plain
      {character : Char}
      {rest : List Char}
      (notQuote : character ≠ '"')
      (notBackslash : character ≠ '\\')
      (notControl : 32 ≤ character.toNat)
      (later : TextBody rest) :
      TextBody (character :: rest)
  | letter
      {letter : Char}
      {rest : List Char}
      (known : (escapedCharacter? letter).isSome = true)
      (later : TextBody rest) :
      TextBody ('\\' :: letter :: rest)
  | unit
      {a b c d : Char}
      {rest : List Char}
      (digits : ∀ digit ∈ [a, b, c, d], (hexDigit? digit).isSome = true)
      (later : TextBody rest) :
      TextBody ('\\' :: 'u' :: a :: b :: c :: d :: rest)

namespace Token

/-- The characters of a token. -/
def written : Token → List Char
  | openArray => ['[']
  | closeArray => [']']
  | openObject => ['{']
  | closeObject => ['}']
  | comma => [',']
  | colon => [':']
  | null => ['n', 'u', 'l', 'l']
  | boolean true => ['t', 'r', 'u', 'e']
  | boolean false => ['f', 'a', 'l', 's', 'e']
  | number token => token
  | text body => inQuotes body

/-- A token as it can stand in a text. -/
def IsProper : Token → Prop
  | number token => IsNumber token
  | text body => TextBody body
  | _ => True

/-- Tokens that go on as long as characters of their kind follow. -/
def isRun : Token → Bool
  | null | boolean _ | number _ => true
  | _ => false

end Token

/-- A text that does not begin with a character of a number or of a word. -/
def EndsRun (text : List Char) : Prop :=
  ∀ character ∈ text.head?, inNumber character = false ∧ inWord character = false

/-- The texts that are spelled with some tokens and with blanks of some kind before and after them. -/
inductive Spelled (blank : Char → Bool) : List Token → List Char → Prop
  | nil : Spelled blank [] []
  | blank
      {character : Char}
      {tokens : List Token}
      {rest : List Char}
      (allowed : blank character = true)
      (later : Spelled blank tokens rest) :
      Spelled blank tokens (character :: rest)
  | token
      {token : Token}
      {tokens : List Token}
      {rest : List Char}
      (ends : token.isRun = true → EndsRun rest)
      (later : Spelled blank tokens rest) :
      Spelled blank (token :: tokens) (token.written ++ rest)

namespace Spelled

variable {blank : Char → Bool} {tokens : List Token} {text : List Char}

/-- Without blanks a text is what its tokens are written with. -/
theorem filter (spelled : Spelled blank tokens text) :
    text.filter (fun character => !blank character) =
      (tokens.flatMap Token.written).filter (fun character => !blank character) := by
  induction spelled with
  | nil => rfl
  | blank allowed _ ih =>
      rw [List.filter_cons_of_neg (by simp [allowed])]
      exact ih
  | token _ _ ih => rw [List.filter_append, ih, List.flatMap_cons, List.filter_append]

theorem eq_written (spelled : Spelled (fun _ => false) tokens text) :
    text = tokens.flatMap Token.written := by
  have withoutBlanks (text : List Char) : text.filter (fun _ => !false) = text :=
    List.filter_eq_self.mpr fun _ _ => rfl
  rw [← withoutBlanks text, spelled.filter, withoutBlanks]

end Spelled

/-! ## Finding tokens -/

namespace TokenScanner

theorem run?_cons
    {scanner next : TokenScanner}
    {character : Char}
    (step : scanner.step? character = some next)
    (rest : List Char) :
    scanner.run? (character :: rest) = next.run? rest := by
  rw [run?, List.foldlM_cons, step]
  rfl

/-- Scan a text to its end. -/
def finish?
    (scanner : TokenScanner)
    (text : List Char) : Option TokenScanner :=
  (scanner.run? text).bind complete?

theorem finish?_cons
    (scanner : TokenScanner)
    (character : Char)
    (rest : List Char) :
    scanner.finish? (character :: rest) =
      (scanner.step? character).bind (·.finish? rest) := by
  rw [finish?, run?, List.foldlM_cons, Option.bind_eq_bind, Option.bind_assoc]
  rfl

theorem finish?_append
    (scanner : TokenScanner)
    (before after : List Char) :
    scanner.finish? (before ++ after) = (scanner.run? before).bind (·.finish? after) := by
  rw [finish?, run?, List.foldlM_append, Option.bind_eq_bind, Option.bind_assoc]
  rfl

theorem finish?_of_run?
    {scanner next : TokenScanner}
    {before : List Char}
    (run : scanner.run? before = some next)
    (after : List Char) :
    scanner.finish? (before ++ after) = next.finish? after := by
  rw [finish?_append, run, Option.bind_some]

variable (found : List Token)

/-- What ends a run completes its token and is read as if it stood after a gap. -/
theorem finish?_of_complete?
    {scanner : TokenScanner}
    (complete : scanner.complete? = some ⟨.gap, found⟩)
    {rest : List Char}
    (ends : EndsRun rest) :
    scanner.finish? rest = (⟨.gap, found⟩ : TokenScanner).finish? rest := by
  cases rest with
  | nil => exact complete
  | cons character rest =>
      obtain ⟨notNumber, notWord⟩ := ends character rfl
      have step : scanner.step? character = (⟨.gap, found⟩ : TokenScanner).begin? character := by
        unfold step?
        split
        next isGap =>
          rw [complete?, isGap, Option.some.injEq] at complete
          rw [complete]
        next => rw [notWord, if_neg Bool.false_ne_true, complete, Option.bind_some]
        next => rw [notNumber, if_neg Bool.false_ne_true, complete, Option.bind_some]
        next isText => rw [complete?, isText] at complete; cases complete
        next isEscape => rw [complete?, isEscape] at complete; cases complete
        next isUnit => rw [complete?, isUnit] at complete; cases complete
      rw [finish?_cons, finish?_cons, step]
      rfl

section Text

variable (read : List Char)

theorem step?_plain
    {character : Char}
    (notQuote : character ≠ '"')
    (notBackslash : character ≠ '\\')
    (notControl : 32 ≤ character.toNat) :
    step? ⟨.text read, found⟩ character = some ⟨.text (character :: read), found⟩ := by
  simp only [step?, beq_false_of_ne notQuote, beq_false_of_ne notBackslash,
    Bool.false_eq_true, if_false, Nat.not_lt.mpr notControl]

theorem step?_letter
    {letter : Char}
    (known : (escapedCharacter? letter).isSome = true) :
    step? ⟨.escape read, found⟩ letter = some ⟨.text (letter :: read), found⟩ := by
  have notUnit : letter ≠ 'u' := by
    rintro rfl
    cases known
  simp only [step?, beq_false_of_ne notUnit, Bool.false_eq_true, if_false, known, if_true]

theorem step?_unit
    {digit : Char}
    (isDigit : (hexDigit? digit).isSome = true)
    (more : Nat) :
    step? ⟨.unit (more + 2) read, found⟩ digit =
      some ⟨.unit (more + 1) (digit :: read), found⟩ := by
  simp only [step?, isDigit, if_true]

theorem step?_lastUnit
    {digit : Char}
    (isDigit : (hexDigit? digit).isSome = true) :
    step? ⟨.unit 1 read, found⟩ digit = some ⟨.text (digit :: read), found⟩ := by
  simp only [step?, isDigit, if_true]

/-- The rest of a text up to its closing quote. -/
theorem run?_textBody
    {body : List Char}
    (isBody : TextBody body) :
    run? ⟨.text read, found⟩ body = some ⟨.text (body.reverse ++ read), found⟩ := by
  induction isBody generalizing read with
  | nil => rfl
  | plain notQuote notBackslash notControl _ ih =>
      rw [run?_cons (step?_plain found read notQuote notBackslash notControl), ih]
      simp
  | letter known _ ih =>
      have opening : step? ⟨.text read, found⟩ '\\' = some ⟨.escape ('\\' :: read), found⟩ := rfl
      rw [run?_cons opening, run?_cons (step?_letter found _ known), ih]
      simp
  | @unit a b c d rest digits _ ih =>
      have opening : step? ⟨.text read, found⟩ '\\' = some ⟨.escape ('\\' :: read), found⟩ := rfl
      have unit : step? ⟨.escape ('\\' :: read), found⟩ 'u' =
          some ⟨.unit 4 ('u' :: '\\' :: read), found⟩ := rfl
      rw [run?_cons opening, run?_cons unit,
        run?_cons (step?_unit found _ (digits a (by simp)) 2),
        run?_cons (step?_unit found _ (digits b (by simp)) 1),
        run?_cons (step?_unit found _ (digits c (by simp)) 0),
        run?_cons (step?_lastUnit found _ (digits d (by simp))), ih]
      simp

theorem run?_text
    {body : List Char}
    (isBody : TextBody body) :
    run? ⟨.gap, found⟩ (inQuotes body) = some ⟨.gap, .text body :: found⟩ := by
  have opening : step? ⟨.gap, found⟩ '"' = some ⟨.text [], found⟩ := rfl
  have closing : run? ⟨.text body.reverse, found⟩ ['"'] =
      some ⟨.gap, .text body.reverse.reverse :: found⟩ := rfl
  rw [inQuotes, run?_cons opening, run?, List.foldlM_append, ← run?, run?_textBody found [] isBody,
    List.append_nil, Option.bind_eq_bind, Option.bind_some, ← run?, closing, List.reverse_reverse]

end Text

section Number

theorem step?_number
    {first : Char}
    (begins : (isDigit first || first == '-') = true) :
    step? ⟨.gap, found⟩ first = some ⟨.number [first], found⟩ := by
  have other (candidate : Char) (notNumber : (isDigit candidate || candidate == '-') = false) :
      (first == candidate) = false := by
    rw [beq_eq_false_iff_ne]
    rintro rfl
    rw [begins] at notNumber
    cases notNumber
  simp only [step?, begin?, isSpace, other ' ' rfl, other '\n' rfl, other '\t' rfl, other '\r' rfl,
    other '[' rfl, other ']' rfl, other '{' rfl, other '}' rfl, other ',' rfl, other ':' rfl,
    other '"' rfl, begins, Bool.or_self, Bool.false_eq_true, if_false, if_true]

theorem run?_inNumber
    (read : List Char)
    {rest : List Char}
    (all : rest.all inNumber = true) :
    run? ⟨.number read, found⟩ rest = some ⟨.number (rest.reverse ++ read), found⟩ := by
  induction rest generalizing read with
  | nil => rfl
  | cons character rest ih =>
      rw [List.all_cons, Bool.and_eq_true] at all
      have step : step? ⟨.number read, found⟩ character =
          some ⟨.number (character :: read), found⟩ := by
        simp only [step?, all.1, if_true]
      rw [run?_cons step, ih _ all.2]
      simp

theorem exists_run?_number
    {token : List Char}
    (isNumber : IsNumber token) :
    ∃ scanner, run? ⟨.gap, found⟩ token = some scanner ∧
      scanner.complete? = some ⟨.gap, .number token :: found⟩ := by
  obtain ⟨first, rest, same, begins⟩ := isNumber.begins
  have all := isNumber.all_inNumber
  rw [same, List.all_cons, Bool.and_eq_true] at all
  refine ⟨⟨.number (rest.reverse ++ [first]), found⟩, ?_, ?_⟩
  · rw [same, run?_cons (step?_number found begins), run?_inNumber found _ all.2]
  · obtain ⟨form, isForm⟩ := Option.isSome_iff_exists.mp isNumber
    have whole : (rest.reverse ++ [first]).reverse = token := by
      rw [same]
      simp
    rw [complete?]
    dsimp only
    rw [whole, Token.ofNumber?, isForm]
    rfl

end Number

/-- Any token that stands in a text and is not continued there. -/
theorem finish?_token
    {token : Token}
    (proper : token.IsProper)
    {rest : List Char}
    (ends : token.isRun = true → EndsRun rest) :
    (⟨.gap, found⟩ : TokenScanner).finish? (token.written ++ rest) =
      (⟨.gap, token :: found⟩ : TokenScanner).finish? rest := by
  have word
      {scanner : TokenScanner}
      (run : run? ⟨.gap, found⟩ token.written = some scanner)
      (complete : scanner.complete? = some ⟨.gap, token :: found⟩)
      (isRun : token.isRun = true) :
      (⟨.gap, found⟩ : TokenScanner).finish? (token.written ++ rest) =
        (⟨.gap, token :: found⟩ : TokenScanner).finish? rest := by
    rw [finish?_of_run? run, finish?_of_complete? _ complete (ends isRun)]
  cases token with
  | openArray | closeArray | openObject | closeObject | comma | colon => exact finish?_of_run? rfl rest
  | null => exact word rfl rfl rfl
  | boolean value => cases value <;> exact word rfl rfl rfl
  | number token =>
      obtain ⟨scanner, run, complete⟩ := exists_run?_number found proper
      exact word run complete rfl
  | text body => exact finish?_of_run? (run?_text found proper) rest

end TokenScanner

section

variable {blank : Char → Bool} (onlySpaces : ∀ character, blank character = true → isSpace character = true)

include onlySpaces

theorem Spelled.finish?_eq
    {tokens : List Token}
    {text : List Char}
    (spelled : Spelled blank tokens text)
    (proper : ∀ token ∈ tokens, token.IsProper)
    (found : List Token) :
    (⟨.gap, found⟩ : TokenScanner).finish? text = some ⟨.gap, tokens.reverse ++ found⟩ := by
  induction spelled generalizing found with
  | nil => rfl
  | @blank character tokens rest allowed _ ih =>
      have step : TokenScanner.step? ⟨.gap, found⟩ character = some ⟨.gap, found⟩ :=
        if_pos (onlySpaces character allowed)
      rw [TokenScanner.finish?_cons, step, Option.bind_some, ih proper]
  | token ends _ ih =>
      rw [TokenScanner.finish?_token found (proper _ List.mem_cons_self) ends,
        ih fun other member => proper other (List.mem_cons_of_mem _ member)]
      simp

/-- A text has the tokens that it is spelled with. -/
theorem tokens?_of_spelled
    {tokens : List Token}
    {text : List Char}
    (spelled : Spelled blank tokens text)
    (proper : ∀ token ∈ tokens, token.IsProper) :
    tokens? text = some tokens := by
  have finished := spelled.finish?_eq onlySpaces proper []
  rw [TokenScanner.finish?, Option.bind_eq_some_iff] at finished
  obtain ⟨scanner, run, complete⟩ := finished
  have run : TokenScanner.run? {} text = some scanner := run
  simp [tokens?, run, complete]

end

end Barrage.Json
