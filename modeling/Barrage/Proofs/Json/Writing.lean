import Barrage.Proofs.Json.Spelling

/-!
# The written forms of JSON values

A JSON value has its tokens, and both of its written forms are spelled with
them: `compact` without any blanks, `pretty` with spaces and line feeds.  So the
two differ in blanks only (`filter_pretty`).
-/

namespace Barrage.Json

/-! ## The tokens of a value -/

mutual

/-- The tokens of a value, in the order in which they are written. -/
def tokens : Json → List Token
  | null => [.null]
  | boolean value => [.boolean value]
  | number token => [.number token]
  | text body => [.text body]
  | array items => .openArray :: (itemTokens items ++ [.closeArray])
  | object members => .openObject :: (memberTokens members ++ [.closeObject])

/-- The tokens of items with commas between them. -/
def itemTokens : List Json → List Token
  | [] => []
  | [item] => item.tokens
  | item :: next :: rest => item.tokens ++ .comma :: itemTokens (next :: rest)

/-- The tokens of members with commas between them. -/
def memberTokens : List (List Char × Json) → List Token
  | [] => []
  | [(key, value)] => .text key :: .colon :: value.tokens
  | (key, value) :: next :: rest =>
      .text key :: .colon :: (value.tokens ++ .comma :: memberTokens (next :: rest))

end

/-! ## Written forms -/

theorem endsRun_nil : EndsRun [] := by
  intro character member
  cases member

theorem endsRun_cons
    {first : Char}
    (notNumber : inNumber first = false)
    (notWord : inWord first = false)
    (rest : List Char) :
    EndsRun (first :: rest) := by
  intro character member
  cases member
  exact ⟨notNumber, notWord⟩

namespace Spelled

variable {blank : Char → Bool} {later : List Token} {rest : List Char}

/-- A token that ends by itself. -/
theorem mark
    {token : Token}
    (endsItself : token.isRun = false)
    (spelled : Spelled blank later rest) :
    Spelled blank (token :: later) (token.written ++ rest) := by
  refine .token ?_ spelled
  rw [endsItself]
  intro isRun
  cases isRun

end Spelled

variable {blank : Char → Bool}

section Compact

mutual

/-- Without blanks. -/
theorem spelled_compact
    (json : Json)
    {later : List Token}
    {rest : List Char}
    (spelled : Spelled blank later rest)
    (ends : EndsRun rest) :
    Spelled blank (json.tokens ++ later) (json.compact ++ rest) := by
  cases json with
  | null => exact .token (fun _ => ends) spelled
  | boolean value => cases value <;> exact .token (fun _ => ends) spelled
  | number token => exact .token (fun _ => ends) spelled
  | text body => exact .mark rfl spelled
  | array items =>
      have closed : Spelled blank (.closeArray :: later) (']' :: rest) := .mark rfl spelled
      have spelledItems := spelled_compactItems items closed (endsRun_cons rfl rfl rest)
      simp only [tokens, compact, List.cons_append, List.append_assoc, List.nil_append]
      exact .mark rfl spelledItems
  | object members =>
      have closed : Spelled blank (.closeObject :: later) ('}' :: rest) := .mark rfl spelled
      have spelledMembers := spelled_compactMembers members closed (endsRun_cons rfl rfl rest)
      simp only [tokens, compact, List.cons_append, List.append_assoc, List.nil_append]
      exact .mark rfl spelledMembers

theorem spelled_compactItems
    (items : List Json)
    {later : List Token}
    {rest : List Char}
    (spelled : Spelled blank later rest)
    (ends : EndsRun rest) :
    Spelled blank (itemTokens items ++ later) (compactItems items ++ rest) := by
  match items with
  | [] => exact spelled
  | [item] => exact spelled_compact item spelled ends
  | item :: next :: others =>
      have spelledOthers := spelled_compactItems (next :: others) spelled ends
      rw [itemTokens, compactItems, List.append_assoc, List.append_assoc]
      exact spelled_compact item (.mark rfl spelledOthers) (endsRun_cons rfl rfl _)

theorem spelled_compactMembers
    (members : List (List Char × Json))
    {later : List Token}
    {rest : List Char}
    (spelled : Spelled blank later rest)
    (ends : EndsRun rest) :
    Spelled blank (memberTokens members ++ later) (compactMembers members ++ rest) := by
  match members with
  | [] => exact spelled
  | [(key, value)] =>
      rw [memberTokens, compactMembers, List.append_assoc]
      exact .mark rfl (.mark rfl (spelled_compact value spelled ends))
  | (key, value) :: next :: others =>
      have spelledOthers := spelled_compactMembers (next :: others) spelled ends
      have spelledValue :=
        spelled_compact value (.mark rfl spelledOthers : Spelled blank (.comma :: _) (',' :: _))
          (endsRun_cons rfl rfl _)
      simp only [memberTokens, compactMembers, List.cons_append, List.append_assoc]
      exact .mark rfl (.mark rfl spelledValue)

end

end Compact

/-! ## Blanks -/

/-- The characters that lines are laid out with. -/
def isLayout (character : Char) : Bool :=
  character == ' ' || character == '\n'

theorem isSpace_of_isLayout
    {character : Char}
    (layout : isLayout character = true) :
    isSpace character = true := by
  rw [isLayout] at layout
  rw [isSpace, layout]
  rfl

theorem endsRun_newLine
    (level : Nat)
    (rest : List Char) :
    EndsRun (newLine level ++ rest) :=
  endsRun_cons rfl rfl _

theorem Spelled.newLine
    {later : List Token}
    {rest : List Char}
    (level : Nat)
    (spelled : Spelled isLayout later rest) :
    Spelled isLayout later (Json.newLine level ++ rest) := by
  refine .blank rfl ?_
  induction 2 * level with
  | zero => exact spelled
  | succ count ih => exact .blank rfl ih

section Pretty

mutual

theorem spelled_prettyAt
    (json : Json)
    (level : Nat)
    {later : List Token}
    {rest : List Char}
    (spelled : Spelled isLayout later rest)
    (ends : EndsRun rest) :
    Spelled isLayout (json.tokens ++ later) (json.prettyAt level ++ rest) := by
  match json with
  | null => exact .token (fun _ => ends) spelled
  | boolean true => exact .token (fun _ => ends) spelled
  | boolean false => exact .token (fun _ => ends) spelled
  | number token => exact .token (fun _ => ends) spelled
  | text body => exact .mark rfl spelled
  | array [] => exact .mark rfl (.mark rfl spelled : Spelled isLayout (.closeArray :: _) (']' :: _))
  | object [] => exact .mark rfl (.mark rfl spelled : Spelled isLayout (.closeObject :: _) ('}' :: _))
  | array (item :: others) =>
      have closed : Spelled isLayout (.closeArray :: later) (newLine level ++ ']' :: rest) :=
        .newLine level (.mark rfl spelled)
      have spelledItems :=
        spelled_prettyItems (item :: others) (level + 1) closed (endsRun_newLine level _)
      simp only [tokens, prettyAt, List.cons_append, List.append_assoc, List.nil_append]
      exact .mark rfl spelledItems
  | object (member :: others) =>
      have closed : Spelled isLayout (.closeObject :: later) (newLine level ++ '}' :: rest) :=
        .newLine level (.mark rfl spelled)
      have spelledMembers :=
        spelled_prettyMembers (member :: others) (level + 1) closed (endsRun_newLine level _)
      simp only [tokens, prettyAt, List.cons_append, List.append_assoc, List.nil_append]
      exact .mark rfl spelledMembers

theorem spelled_prettyItems
    (items : List Json)
    (level : Nat)
    {later : List Token}
    {rest : List Char}
    (spelled : Spelled isLayout later rest)
    (ends : EndsRun rest) :
    Spelled isLayout (itemTokens items ++ later) (prettyItems level items ++ rest) := by
  match items with
  | [] => exact spelled
  | [item] =>
      rw [itemTokens, prettyItems, List.append_assoc]
      exact .newLine level (spelled_prettyAt item level spelled ends)
  | item :: next :: others =>
      have spelledOthers := spelled_prettyItems (next :: others) level spelled ends
      simp only [itemTokens, prettyItems, List.append_assoc, List.cons_append]
      exact
        .newLine level
          (spelled_prettyAt item level (.mark rfl spelledOthers) (endsRun_cons rfl rfl _))

theorem spelled_prettyMembers
    (members : List (List Char × Json))
    (level : Nat)
    {later : List Token}
    {rest : List Char}
    (spelled : Spelled isLayout later rest)
    (ends : EndsRun rest) :
    Spelled isLayout (memberTokens members ++ later) (prettyMembers level members ++ rest) := by
  match members with
  | [] => exact spelled
  | [(key, value)] =>
      have spelledValue := spelled_prettyAt value level spelled ends
      simp only [memberTokens, prettyMembers, List.append_assoc, List.cons_append]
      exact .newLine level (.mark rfl (.mark rfl (.blank rfl spelledValue)))
  | (key, value) :: next :: others =>
      have spelledOthers := spelled_prettyMembers (next :: others) level spelled ends
      have spelledValue :=
        spelled_prettyAt value level
          (.mark rfl spelledOthers : Spelled isLayout (.comma :: _) (',' :: _))
          (endsRun_cons rfl rfl _)
      simp only [memberTokens, prettyMembers, List.append_assoc, List.cons_append]
      exact .newLine level (.mark rfl (.mark rfl (.blank rfl spelledValue)))

end

end Pretty

/-! ## Leaving out blanks -/

section

variable (json : Json)

/-- Whatever blanks are allowed, there is none in the compact form. -/
theorem compact_spelled : Spelled blank json.tokens json.compact := by
  have spelled := spelled_compact json (.nil : Spelled blank [] []) endsRun_nil
  rwa [List.append_nil, List.append_nil] at spelled

theorem compact_eq_written : json.compact = json.tokens.flatMap Token.written :=
  (compact_spelled json).eq_written

/-- The form over several lines, with a line feed at its end. -/
theorem pretty_spelled : Spelled isLayout json.tokens (json.pretty ++ ['\n']) := by
  have lineFeed : Spelled isLayout [] ['\n'] := .blank rfl .nil
  have spelled := spelled_prettyAt json 0 lineFeed (endsRun_cons rfl rfl [])
  rwa [List.append_nil] at spelled

/-- Without blanks the two forms are the same. -/
theorem filter_pretty :
    (json.pretty ++ ['\n']).filter (fun character => !isLayout character) =
      json.compact.filter (fun character => !isLayout character) := by
  rw [(pretty_spelled json).filter, compact_eq_written]

end

end Barrage.Json
