import Barrage.Json.Reader
import Barrage.Proofs.Json.Writing

/-!
# Reading what is written

The reader puts a value together again from its tokens, whatever arrays and
objects stand around it.  So both written forms of a value are read back as this
value (`read?_compact`, `read?_pretty`), and no two values have a written form in
common (`compact_injective`).
-/

namespace Barrage.Json

/-! ## Reading tokens -/

namespace TreeReader

theorem run?_cons
    {reader next : TreeReader}
    {token : Token}
    (step : reader.step? token = some next)
    (rest : List Token) :
    reader.run? (token :: rest) = next.run? rest := by
  rw [run?, List.foldlM_cons, step]
  rfl

/-- The first token of a value closes no array. -/
theorem run?_valueOrClosing
    (frames : List Frame)
    (json : Json)
    (rest : List Token) :
    run? ⟨frames, .valueOrClosing, none⟩ (json.tokens ++ rest) =
      run? ⟨frames, .value, none⟩ (json.tokens ++ rest) := by
  cases json <;> rfl

theorem run?_itemsOrClosing
    (frames : List Frame)
    (item : Json)
    (others : List Json)
    (rest : List Token) :
    run? ⟨frames, .valueOrClosing, none⟩ (itemTokens (item :: others) ++ rest) =
      run? ⟨frames, .value, none⟩ (itemTokens (item :: others) ++ rest) := by
  cases others with
  | nil => exact run?_valueOrClosing frames item rest
  | cons next others =>
      rw [itemTokens, List.append_assoc]
      exact run?_valueOrClosing frames item _

theorem run?_membersOrClosing
    (frames : List Frame)
    (member : List Char × Json)
    (others : List (List Char × Json))
    (rest : List Token) :
    run? ⟨frames, .keyOrClosing, none⟩ (memberTokens (member :: others) ++ rest) =
      run? ⟨frames, .key, none⟩ (memberTokens (member :: others) ++ rest) := by
  cases others <;> rfl

section Tree

mutual

/-- The tokens of a value are read as that value. -/
theorem run?_tokens
    (json : Json)
    (frames : List Frame)
    (rest : List Token) :
    run? ⟨frames, .value, none⟩ (json.tokens ++ rest) = run? (place frames json) rest := by
  match json with
  | null => exact run?_cons rfl rest
  | boolean value => exact run?_cons rfl rest
  | number token => exact run?_cons rfl rest
  | text body => exact run?_cons rfl rest
  | array [] =>
      rw [tokens, List.cons_append, List.append_assoc, run?_cons rfl]
      exact run?_cons rfl rest
  | object [] =>
      rw [tokens, List.cons_append, List.append_assoc, run?_cons rfl]
      exact run?_cons rfl rest
  | array (item :: others) =>
      have readItems := run?_itemTokens (item :: others) (List.cons_ne_nil _ _) [] frames rest
      rw [tokens, List.cons_append, List.append_assoc, run?_cons rfl, run?_itemsOrClosing]
      exact readItems
  | object (member :: others) =>
      have readMembers :=
        run?_memberTokens (member :: others) (List.cons_ne_nil _ _) [] [] frames rest
      rw [tokens, List.cons_append, List.append_assoc, run?_cons rfl, run?_membersOrClosing]
      exact readMembers

theorem run?_itemTokens
    (items : List Json)
    (someItem : items ≠ [])
    (read : List Json)
    (frames : List Frame)
    (rest : List Token) :
    run? ⟨.array read :: frames, .value, none⟩ (itemTokens items ++ .closeArray :: rest) =
      run? (place frames (.array (read.reverse ++ items))) rest := by
  match items with
  | [] => exact absurd rfl someItem
  | [item] =>
      rw [itemTokens, run?_tokens, place, run?_cons rfl, List.reverse_cons]
  | item :: next :: others =>
      have readOthers :=
        run?_itemTokens (next :: others) (List.cons_ne_nil _ _) (item :: read) frames rest
      rw [itemTokens, List.append_assoc, run?_tokens, place, List.cons_append, run?_cons rfl,
        readOthers, List.reverse_cons, List.append_assoc]
      rfl

theorem run?_memberTokens
    (members : List (List Char × Json))
    (someMember : members ≠ [])
    (read : List (List Char × Json))
    (lastKey : List Char)
    (frames : List Frame)
    (rest : List Token) :
    run? ⟨.object read lastKey :: frames, .key, none⟩
        (memberTokens members ++ .closeObject :: rest) =
      run? (place frames (.object (read.reverse ++ members))) rest := by
  match members with
  | [] => exact absurd rfl someMember
  | [(key, value)] =>
      rw [memberTokens, List.cons_append, List.cons_append, run?_cons rfl, run?_cons rfl,
        run?_tokens, place, run?_cons rfl, List.reverse_cons]
  | (key, value) :: next :: others =>
      have readOthers :=
        run?_memberTokens (next :: others) (List.cons_ne_nil _ _) ((key, value) :: read) key
          frames rest
      rw [memberTokens, List.cons_append, List.cons_append, List.append_assoc, run?_cons rfl,
        run?_cons rfl, run?_tokens, place, List.cons_append, run?_cons rfl, readOthers,
        List.reverse_cons, List.append_assoc]
      rfl

end

end Tree

end TreeReader

/-! ## Reading texts -/

/-- A value whose numbers and texts are such as JSON has. -/
def IsProper (json : Json) : Prop :=
  ∀ token ∈ json.tokens, token.IsProper

section Proper

variable {json : Json} (proper : json.IsProper)

include proper

/-- A text that is spelled with the tokens of a value holds this value. -/
theorem read?_of_spelled
    {blank : Char → Bool}
    (onlySpaces : ∀ character, blank character = true → isSpace character = true)
    {text : List Char}
    (spelled : Spelled blank json.tokens text) :
    read? text = some json := by
  have run := TreeReader.run?_tokens json [] []
  rw [List.append_nil] at run
  rw [read?, tokens?_of_spelled onlySpaces spelled proper]
  show (TreeReader.run? {} json.tokens).bind TreeReader.result = some json
  rw [run]
  rfl

theorem read?_compact : read? json.compact = some json :=
  read?_of_spelled proper (fun _ isSpace => isSpace) (compact_spelled json)

/-- The form over several lines is read back, with a line feed at its end as well. -/
theorem read?_pretty : read? (json.pretty ++ ['\n']) = some json :=
  read?_of_spelled proper (fun _ layout => isSpace_of_isLayout layout) (pretty_spelled json)

end Proper

/-- Values with the same written form are the same. -/
theorem compact_injective
    {json other : Json}
    (proper : json.IsProper)
    (otherProper : other.IsProper)
    (same : json.compact = other.compact) :
    json = other := by
  have read := read?_compact proper
  rw [same, read?_compact otherProper] at read
  exact (Option.some.inj read).symm

end Barrage.Json
