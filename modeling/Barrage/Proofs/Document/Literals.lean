import Barrage.Proofs.Document.Scanning
import Barrage.Proofs.Document.Reading

/-!
# Text literals

What stands behind a double quote is read in units: a backslash goes with the
character after it, and any other character is a unit of its own.  The literal
ends at the first unit that is a double quote (`Closes`).  The scanner agrees,
although it goes character by character, and `unescape`, which goes over the body
once more, finds the meanings of the same units.

Every text can be written as a literal.  It is enough to escape its backslashes
and double quotes (`Node.escape`).

Behind a literal, scanning goes on as if the text began there.  Only offsets are
greater (`Scanner.run_behind`).
-/

namespace Barrage.Document

/-! ## Units -/

/-- What is read at once behind a double quote. -/
inductive LiteralUnit
  /-- A character by itself.  Of the backslashes only one that ends the text stands alone. -/
  | plain (character : Char)
  /-- A backslash with the character that it escapes. -/
  | escaped (character : Char)
deriving DecidableEq, Repr

namespace LiteralUnit

/-- The characters that a unit is written with. -/
def characters : LiteralUnit → List Char
  | plain character => [character]
  | escaped character => ['\\', character]

/-- The character that a unit stands for. -/
def meaning : LiteralUnit → Char
  | plain character => character
  | escaped 'n' => '\n'
  | escaped 't' => '\t'
  | escaped character => character

/-- The units of a text. -/
def ofText : List Char → List LiteralUnit
  | '\\' :: character :: rest => escaped character :: ofText rest
  | character :: rest => plain character :: ofText rest
  | [] => []

/-- A unit with which a literal neither ends nor breaks off. -/
def Continues (unit : LiteralUnit) : Prop :=
  unit ≠ plain '"' ∧ unit ≠ plain '\\' ∧ unit ≠ escaped '\n'

/-- The first unit that is a double quote stands between these, and nothing breaks off before it. -/
structure Closes
    (text : List Char)
    (inside rest : List LiteralUnit) : Prop where
  units : ofText text = inside ++ plain '"' :: rest
  continues : ∀ unit ∈ inside, unit.Continues

/-- Going over a text unit by unit. -/
@[elab_as_elim]
theorem induction_units
    {motive : List Char → Prop}
    (nil : motive [])
    (alone : motive ['\\'])
    (escaped : ∀ character rest, motive rest → motive ('\\' :: character :: rest))
    (plain : ∀ character rest, character ≠ '\\' → motive rest → motive (character :: rest))
    (text : List Char) :
    motive text := by
  induction text using ofText.induct with
  | case1 character rest ih => exact escaped character rest ih
  | case2 character rest notEscape ih =>
      by_cases backslash : character = '\\'
      · subst backslash
        cases rest with
        | nil => exact alone
        | cons next later => exact (notEscape next later rfl rfl).elim
      · exact plain character rest backslash ih
  | case3 => exact nil

theorem ofText_plain
    {character : Char}
    (notBackslash : character ≠ '\\')
    (rest : List Char) :
    ofText (character :: rest) = plain character :: ofText rest := by
  rw [ofText]
  intro _ _ same
  exact absurd same notBackslash

/-- The units of a text spell it. -/
theorem characters_ofText (text : List Char) : (ofText text).flatMap characters = text := by
  induction text using induction_units with
  | nil => rfl
  | alone => rfl
  | escaped character rest ih => rw [ofText, List.flatMap_cons, ih]; rfl
  | plain character rest notBackslash ih =>
      rw [ofText_plain notBackslash, List.flatMap_cons, ih]
      rfl

/-- Units with which a literal goes on can stand between its quotes. -/
theorem literalBody_of_continues
    {units : List LiteralUnit}
    (continues : ∀ unit ∈ units, unit.Continues) :
    LiteralBody (units.flatMap characters) := by
  induction units with
  | nil => exact .nil
  | cons unit later ih =>
      obtain ⟨⟨notQuote, notAlone, notBroken⟩, continuesLater⟩ := List.forall_mem_cons.mp continues
      cases unit with
      | plain character =>
          exact
            .plain (fun same => notQuote (congrArg plain same))
              (fun same => notAlone (congrArg plain same)) (ih continuesLater)
      | escaped character =>
          exact .escape (fun same => notBroken (congrArg escaped same)) (ih continuesLater)

/-- A unit in front with which the literal goes on changes nothing at its end. -/
theorem Closes.cons
    {text longer : List Char}
    {unit : LiteralUnit}
    {inside rest : List LiteralUnit}
    (closes : Closes text inside rest)
    (continues : unit.Continues)
    (units : ofText longer = unit :: ofText text) :
    Closes longer (unit :: inside) rest where
  units := by rw [units, closes.units, List.cons_append]
  continues := List.forall_mem_cons.mpr ⟨continues, closes.continues⟩

/-! ## Meanings -/

theorem unescapeOnto_characters_append
    {unit : LiteralUnit}
    (notAlone : unit ≠ plain '\\')
    (newestFirst rest : List Char) :
    Node.unescapeOnto newestFirst (unit.characters ++ rest) =
      Node.unescapeOnto (unit.meaning :: newestFirst) rest := by
  cases unit with
  | plain character =>
      have notBackslash : character ≠ '\\' := fun same => notAlone (congrArg plain same)
      simp [characters, meaning, Node.unescapeOnto, notBackslash]
  | escaped character =>
      by_cases lineFeed : character = 'n'
      · rw [lineFeed]
        rfl
      · by_cases tab : character = 't'
        · rw [tab]
          rfl
        · simp [characters, meaning, Node.unescapeOnto]

theorem unescapeOnto_eq
    {units : List LiteralUnit}
    (notAlone : ∀ unit ∈ units, unit ≠ plain '\\')
    (newestFirst : List Char) :
    Node.unescapeOnto newestFirst (units.flatMap characters) =
      newestFirst.reverse ++ units.map meaning := by
  induction units generalizing newestFirst with
  | nil => simp [Node.unescapeOnto]
  | cons unit later ih =>
      obtain ⟨here, notAloneLater⟩ := List.forall_mem_cons.mp notAlone
      rw [List.flatMap_cons, unescapeOnto_characters_append here, ih notAloneLater,
        List.reverse_cons, List.append_assoc, List.map_cons, List.singleton_append]

/-- A literal denotes the meanings of its units, one after the other. -/
theorem ofLiteral_characters
    {units : List LiteralUnit}
    (continues : ∀ unit ∈ units, unit.Continues) :
    Node.ofLiteral (units.flatMap characters) = .text (String.ofList (units.map meaning)) := by
  rw [Node.ofLiteral, Node.unescape, unescapeOnto_eq fun unit member => (continues unit member).2.1]
  rfl

end LiteralUnit

/-! ## Where a literal ends -/

namespace Scanner

variable (offset : Nat) (found : List PlacedLexeme)

/-- A literal that ends is one lexeme. -/
theorem run_literal
    {body : List Char}
    (isBody : LiteralBody body)
    (rest : List Char) :
    run ⟨offset, .gap, found⟩ ((Lexeme.literal body).characters ++ rest) =
      run
        ⟨offset + (Lexeme.literal body).characters.length, .gap, ⟨.literal body, offset⟩ :: found⟩
        rest := by
  have quote : step ⟨offset, .gap, found⟩ '"' = ⟨offset + 1, .literal offset [], found⟩ := rfl
  have closing (place : Nat) (read : List Char) :
      step ⟨place, .literal offset read, found⟩ '"' =
        ⟨place + 1, .gap, ⟨.literal read.reverse, offset⟩ :: found⟩ := rfl
  rw [run_append, Lexeme.characters, run_cons, quote, run_append, run_literalBody _ _ _ _ isBody,
    run_cons, closing, run_nil, List.append_nil, List.reverse_reverse, List.length_cons,
    List.length_append, List.length_singleton]
  congr 2
  omega

/-- A literal that does not end is an obstacle at its opening quote. -/
theorem finish_run_of_not_closes
    (start : Nat)
    (newestFirst : List Char)
    {text : List Char}
    (notClosed : ¬ ∃ inside rest, LiteralUnit.Closes text inside rest) :
    (run ⟨offset, .literal start newestFirst, found⟩ text).finish =
      ⟨found.reverse, .stopped start .unterminatedLiteral⟩ := by
  induction text using LiteralUnit.induction_units generalizing offset newestFirst with
  | nil => rfl
  | alone => rfl
  | escaped character rest ih =>
      have backslash : step ⟨offset, .literal start newestFirst, found⟩ '\\' =
          ⟨offset + 1, .escape start ('\\' :: newestFirst), found⟩ := rfl
      rw [run_cons, backslash, run_cons]
      by_cases lineFeed : character = '\n'
      · have stopped : step ⟨offset + 1, .escape start ('\\' :: newestFirst), found⟩ '\n' =
            ⟨offset + 1 + 1, .stopped start .unterminatedLiteral, found⟩ := rfl
        rw [lineFeed, stopped, run_of_isStopped ⟨_, _, rfl⟩]
        rfl
      · rw [step_escape_of_ne _ _ _ _ lineFeed]
        refine ih _ _ fun ⟨inside, units, closes⟩ => notClosed ⟨_, units, closes.cons ?_ rfl⟩
        simpa [LiteralUnit.Continues] using lineFeed
  | plain character rest notBackslash ih =>
      have units := LiteralUnit.ofText_plain notBackslash rest
      by_cases quote : character = '"'
      · rw [quote] at notClosed units
        exact absurd ⟨[], _, units, fun _ impossible => nomatch impossible⟩ notClosed
      · rw [run_cons, step_literal_of_ne _ _ _ _ quote notBackslash]
        refine ih _ _ fun ⟨inside, later, closes⟩ => notClosed ⟨_, later, closes.cons ?_ units⟩
        simpa [LiteralUnit.Continues] using ⟨quote, notBackslash⟩

end Scanner

/-! ## Behind a lexeme -/

/-- A lexeme with more characters in front of it. -/
def PlacedLexeme.moved
    (count : Nat)
    (placed : PlacedLexeme) : PlacedLexeme :=
  { placed with offset := placed.offset + count }

/-- What the scanner is in the middle of, with more characters in front of it. -/
def ScanMode.moved (count : Nat) : ScanMode → ScanMode
  | gap => gap
  | comment => comment
  | atom start newestFirst => atom (start + count) newestFirst
  | literal start newestFirst => literal (start + count) newestFirst
  | escape start newestFirst => escape (start + count) newestFirst
  | stopped start obstacle => stopped (start + count) obstacle

/-- How reading comes to its end, with more characters in front of the text. -/
def Ending.moved (count : Nat) : Ending → Ending
  | complete => complete
  | stopped offset obstacle => stopped (offset + count) obstacle

/-- The lexemes of a text with this lexeme in front of it. -/
def Lexemes.behind
    (lexemes : Lexemes)
    (first : Lexeme) : Lexemes where
  found := ⟨first, 0⟩ :: lexemes.found.map (·.moved first.characters.length)
  ending := lexemes.ending.moved first.characters.length

namespace Scanner

variable (scanner : Scanner) (count : Nat) (found : List PlacedLexeme)

/-- The scanner in a text that stands behind characters in which these lexemes were found. -/
def behind : Scanner where
  offset := scanner.offset + count
  mode := scanner.mode.moved count
  newestFirst := scanner.newestFirst.map (·.moved count) ++ found

theorem begin_behind (character : Char) :
    (scanner.behind count found).begin character = (scanner.begin character).behind count found := by
  obtain ⟨offset, mode, earlier⟩ := scanner
  have next : offset + count + 1 = offset + 1 + count := Nat.add_right_comm offset count 1
  induction character using Lexeme.character_cases with
  | opening | closing | marker | quote | semicolon =>
      simp [behind, begin, emit, ScanMode.moved, PlacedLexeme.moved, next]
  | gap character allowed =>
      rw [begin_of_isGap _ _ _ allowed, behind, begin_of_isGap _ _ _ allowed, next]
      rfl
  | stray character blank notGap =>
      rw [begin_of_stray _ _ _ blank notGap, behind, begin_of_stray _ _ _ blank notGap, next]
      rfl
  | atom character inside =>
      rw [begin_of_endsAtom_eq_false _ _ _ inside, behind, begin_of_endsAtom_eq_false _ _ _ inside,
        next]
      rfl

theorem step_behind (character : Char) :
    (scanner.behind count found).step character = (scanner.step character).behind count found := by
  obtain ⟨offset, mode, earlier⟩ := scanner
  have next : offset + count + 1 = offset + 1 + count := Nat.add_right_comm offset count 1
  cases mode with
  | gap => exact begin_behind ⟨offset, .gap, earlier⟩ count found character
  | comment =>
      by_cases ends : character = '\n' <;> simp [behind, step, ScanMode.moved, ends, next]
  | atom start newestFirst =>
      cases ends : Lexeme.endsAtom character with
      | true =>
          rw [step_atom_of_endsAtom _ _ _ _ ends, ← begin_behind, behind, behind]
          exact step_atom_of_endsAtom _ _ _ _ ends
      | false =>
          rw [step_atom_of_inside _ _ _ _ ends, behind, behind, ← next]
          exact step_atom_of_inside _ _ _ _ ends
  | literal start newestFirst =>
      by_cases quote : character = '"'
      · simp [behind, step, emit, ScanMode.moved, PlacedLexeme.moved, quote, next]
      · by_cases backslash : character = '\\' <;>
          simp [behind, step, ScanMode.moved, quote, backslash, next]
  | escape start newestFirst =>
      by_cases breaks : character = '\n' <;> simp [behind, step, ScanMode.moved, breaks, next]
  | stopped start obstacle => rfl

theorem run_behind (text : List Char) :
    (scanner.behind count found).run text = (scanner.run text).behind count found := by
  induction text generalizing scanner with
  | nil => rfl
  | cons character rest ih => rw [run_cons, run_cons, step_behind, ih]

theorem finish_behind :
    (scanner.behind count found).finish =
      ⟨found.reverse ++ scanner.finish.found.map (·.moved count),
        scanner.finish.ending.moved count⟩ := by
  obtain ⟨offset, mode, earlier⟩ := scanner
  cases mode <;> simp [behind, finish, emit, ScanMode.moved, Ending.moved, PlacedLexeme.moved]

end Scanner

/-! ## Texts that begin with a literal -/

/-- A text with a literal in front has this lexeme, and behind it those of the text. -/
theorem Lexemes.scan_literal
    {body : List Char}
    (isBody : LiteralBody body)
    (rest : List Char) :
    scan ((Lexeme.literal body).characters ++ rest) = (scan rest).behind (.literal body) := by
  have start :
      ({} : Scanner).behind (Lexeme.literal body).characters.length [⟨.literal body, 0⟩] =
        ⟨0 + (Lexeme.literal body).characters.length, .gap, [⟨.literal body, 0⟩]⟩ := rfl
  rw [scan, Scanner.run_literal 0 [] isBody, ← start, Scanner.run_behind, Scanner.finish_behind]
  rfl

/-- A literal alone is a document. -/
theorem readDocument_of_literal
    {text body : List Char}
    (scanned : Lexemes.scan text = ⟨[⟨.literal body, 0⟩], .complete⟩) :
    readDocument text = .ok (.ofLiteral body) := by
  refine readDocument_eq_ok_iff_readPlaced.mpr (readPlaced_of_derives ?_ ?_ ?_)
  · rw [scanned]
  · rw [scanned]
    exact .literal body
  · rw [Node.nesting_ofLiteral]
    exact Nat.zero_le _

theorem readDocument_of_unterminated
    {text : List Char}
    (scanned : Lexemes.scan text = ⟨[], .stopped 0 .unterminatedLiteral⟩) :
    readDocument text = .error ⟨.unterminatedLiteral, ⟨1, 1⟩⟩ := by
  rw [readDocument, readPlaced, scanned]
  rfl

/-! ## Every text in a literal -/

/-- The unit that stands for a character: itself, unless it means something else in a literal. -/
def LiteralUnit.standingFor (character : Char) : LiteralUnit :=
  if character = '"' ∨ character = '\\' then escaped character else plain character

/-- The body of a literal for a text: backslashes and double quotes are escaped. -/
def Node.escape (content : List Char) : List Char :=
  content.flatMap fun character =>
    if character = '"' ∨ character = '\\' then ['\\', character] else [character]

namespace LiteralUnit

theorem continues_standingFor (character : Char) : (standingFor character).Continues := by
  rw [standingFor]
  split
  next special => rcases special with rfl | rfl <;> simp [Continues]
  next ordinary => simpa [Continues, not_or] using ordinary

theorem meaning_standingFor (character : Char) : (standingFor character).meaning = character := by
  rw [standingFor]
  split
  next special => rcases special with rfl | rfl <;> rfl
  next ordinary => rfl

theorem escape_eq (content : List Char) :
    Node.escape content = (content.map standingFor).flatMap characters := by
  rw [List.flatMap_map, Node.escape]
  congr
  funext character
  rw [standingFor]
  split <;> rfl

end LiteralUnit

theorem literalBody_escape (content : List Char) : LiteralBody (Node.escape content) := by
  rw [LiteralUnit.escape_eq]
  refine LiteralUnit.literalBody_of_continues ?_
  simpa using fun character _ => LiteralUnit.continues_standingFor character

/-- What is escaped is read back. -/
theorem ofLiteral_escape (content : List Char) :
    Node.ofLiteral (Node.escape content) = .text (String.ofList content) := by
  have same : (content.map LiteralUnit.standingFor).map LiteralUnit.meaning = content := by
    simp [Function.comp_def, LiteralUnit.meaning_standingFor]
  rw [LiteralUnit.escape_eq, LiteralUnit.ofLiteral_characters, same]
  simpa using fun character _ => LiteralUnit.continues_standingFor character

/--
Every text can be written as a literal and is read back.  Whatever follows, the
literal is the first lexeme, and it ends at its own closing quote.

Any text behind a double quote is a literal up to the first unit that is a
double quote, as long as no backslash before it stands in front of a line feed
or of the end of the text.  The literal denotes the meanings of its units.
Without such a unit it is an obstacle at its opening quote.
-/
theorem literals_hold_every_text :
    (∀ content following : List Char,
      Lexemes.scan ((Lexeme.literal (Node.escape content)).characters ++ following) =
          (Lexemes.scan following).behind (.literal (Node.escape content)) ∧
        Node.ofLiteral (Node.escape content) = .text (String.ofList content) ∧
        (Lexemes.scan following = ⟨[], .complete⟩ →
          readDocument ((Lexeme.literal (Node.escape content)).characters ++ following) =
            .ok (.text (String.ofList content)))) ∧
      ∀ text : List Char,
        (∀ inside rest,
          LiteralUnit.Closes text inside rest →
            text =
                inside.flatMap LiteralUnit.characters ++
                  '"' :: rest.flatMap LiteralUnit.characters ∧
              Lexemes.scan ('"' :: text) =
                (Lexemes.scan (rest.flatMap LiteralUnit.characters)).behind
                  (.literal (inside.flatMap LiteralUnit.characters)) ∧
              Node.ofLiteral (inside.flatMap LiteralUnit.characters) =
                .text (String.ofList (inside.map LiteralUnit.meaning)) ∧
              (Lexemes.scan (rest.flatMap LiteralUnit.characters) = ⟨[], .complete⟩ →
                readDocument ('"' :: text) =
                  .ok (.text (String.ofList (inside.map LiteralUnit.meaning))))) ∧
          ((¬ ∃ inside rest, LiteralUnit.Closes text inside rest) →
            Lexemes.scan ('"' :: text) = ⟨[], .stopped 0 .unterminatedLiteral⟩ ∧
              readDocument ('"' :: text) = .error ⟨.unterminatedLiteral, ⟨1, 1⟩⟩) := by
  constructor
  · intro content following
    have scanned := Lexemes.scan_literal (literalBody_escape content) following
    refine ⟨scanned, ofLiteral_escape content, fun nothing => ?_⟩
    rw [nothing] at scanned
    rw [← ofLiteral_escape]
    exact readDocument_of_literal scanned
  · intro text
    constructor
    · intro inside rest closes
      have spelled := LiteralUnit.characters_ofText text
      rw [closes.units, List.flatMap_append, List.flatMap_cons] at spelled
      have scanned :=
        Lexemes.scan_literal (LiteralUnit.literalBody_of_continues closes.continues)
          (rest.flatMap LiteralUnit.characters)
      rw [Lexeme.characters, List.cons_append, List.append_assoc] at scanned
      have denoted := LiteralUnit.ofLiteral_characters closes.continues
      refine ⟨spelled.symm, ?_, denoted, fun nothing => ?_⟩
      · rw [← spelled]
        exact scanned
      · rw [nothing] at scanned
        rw [← spelled, ← denoted]
        exact readDocument_of_literal scanned
    · intro notClosed
      have scanned : Lexemes.scan ('"' :: text) = ⟨[], .stopped 0 .unterminatedLiteral⟩ :=
        Scanner.finish_run_of_not_closes 1 [] 0 [] notClosed
      exact ⟨scanned, readDocument_of_unterminated scanned⟩

/-- A backslash before the closing quote is escaped, and a quote behind the literal opens none. -/
theorem literal_with_last_backslash_is_read :
    Lexemes.scan [';', '"'] = ⟨[], .complete⟩ ∧
      readDocument
          ((Lexeme.literal (Node.escape ['"', '\n', '\\'])).characters ++ [';', '"']) =
        .ok (.text (String.ofList ['"', '\n', '\\'])) ∧
      LiteralUnit.Closes ['\\', '\\', '\\', 't', '"'] [.escaped '\\', .escaped 't'] [] ∧
      readDocument ['"', '\\', '\\', '\\', 't', '"'] =
        .ok (.text (String.ofList ['\\', '\t'])) := by
  have comment : Lexemes.scan [';', '"'] = ⟨[], .complete⟩ := rfl
  have closes :
      LiteralUnit.Closes ['\\', '\\', '\\', 't', '"'] [.escaped '\\', .escaped 't'] [] :=
    ⟨rfl, by simp [LiteralUnit.Continues]⟩
  exact
    ⟨comment, (literals_hold_every_text.1 ['"', '\n', '\\'] [';', '"']).2.2 comment, closes,
      ((literals_hold_every_text.2 _).1 _ _ closes).2.2.2 rfl⟩

end Barrage.Document
