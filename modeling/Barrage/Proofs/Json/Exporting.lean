import Barrage.Json.Export
import Barrage.Proofs.Json.Reading

/-!
# Exported values

What is exported is put together from numbers, from texts whose content is
escaped, and from null.  All of these are proper, so it is read back.

Numbers and the names of fields are written without spaces and line feeds.  A
value that has nothing else in it is `IsDense`.  Without its layout it is left
as it is written without any (`IsDense.filter_pretty`).
-/

namespace Barrage.Json

open Barrage.Number

/-! ## Tokens of arrays and objects -/

/-- The tokens that say how values are put together. -/
def Token.isMark : Token → Bool
  | openArray | closeArray | openObject | closeObject | comma | colon => true
  | _ => false

theorem mem_itemTokens
    {items : List Json}
    {token : Token}
    (member : token ∈ itemTokens items) :
    token.isMark = true ∨ ∃ item ∈ items, token ∈ item.tokens := by
  induction items with
  | nil => cases member
  | cons item others ih =>
      cases others with
      | nil => exact .inr ⟨item, List.mem_cons_self, member⟩
      | cons next rest =>
          rw [itemTokens, List.mem_append, List.mem_cons] at member
          rcases member with member | rfl | member
          · exact .inr ⟨item, List.mem_cons_self, member⟩
          · exact .inl rfl
          · rcases ih member with isMark | ⟨other, inOthers, member⟩
            · exact .inl isMark
            · exact .inr ⟨other, List.mem_cons_of_mem _ inOthers, member⟩

theorem mem_memberTokens
    {members : List (List Char × Json)}
    {token : Token}
    (member : token ∈ memberTokens members) :
    token.isMark = true ∨ ∃ entry ∈ members, token = .text entry.1 ∨ token ∈ entry.2.tokens := by
  induction members with
  | nil => cases member
  | cons entry others ih =>
      obtain ⟨key, value⟩ := entry
      have inEntry (here : token = .text key ∨ token ∈ value.tokens) :
          ∃ entry ∈ (key, value) :: others, token = .text entry.1 ∨ token ∈ entry.2.tokens :=
        ⟨(key, value), List.mem_cons_self, here⟩
      cases others with
      | nil =>
          rw [memberTokens, List.mem_cons, List.mem_cons] at member
          rcases member with isKey | rfl | member
          · exact .inr (inEntry (.inl isKey))
          · exact .inl rfl
          · exact .inr (inEntry (.inr member))
      | cons next rest =>
          rw [memberTokens, List.mem_cons, List.mem_cons, List.mem_append, List.mem_cons] at member
          rcases member with isKey | rfl | member | rfl | member
          · exact .inr (inEntry (.inl isKey))
          · exact .inl rfl
          · exact .inr (inEntry (.inr member))
          · exact .inl rfl
          · rcases ih member with isMark | ⟨other, inOthers, here⟩
            · exact .inl isMark
            · exact .inr ⟨other, List.mem_cons_of_mem _ inOthers, here⟩

section

variable {P : Token → Prop} (marks : ∀ token, token.isMark = true → P token)

include marks

/-- What holds for marks and in all items holds in an array. -/
theorem forall_tokens_array
    {items : List Json}
    (each : ∀ item ∈ items, ∀ token ∈ item.tokens, P token) :
    ∀ token ∈ (array items).tokens, P token := by
  intro token member
  rw [tokens, List.mem_cons, List.mem_append, List.mem_singleton] at member
  rcases member with rfl | member | rfl
  · exact marks _ rfl
  · rcases mem_itemTokens member with isMark | ⟨item, inItems, member⟩
    · exact marks token isMark
    · exact each item inItems token member
  · exact marks _ rfl

/-- What holds for marks, for all keys and in all values holds in an object. -/
theorem forall_tokens_object
    {members : List (List Char × Json)}
    (each : ∀ entry ∈ members, P (.text entry.1) ∧ ∀ token ∈ entry.2.tokens, P token) :
    ∀ token ∈ (object members).tokens, P token := by
  intro token member
  rw [tokens, List.mem_cons, List.mem_append, List.mem_singleton] at member
  rcases member with rfl | member | rfl
  · exact marks _ rfl
  · rcases mem_memberTokens member with isMark | ⟨entry, inMembers, rfl | member⟩
    · exact marks token isMark
    · exact (each entry inMembers).1
    · exact (each entry inMembers).2 token member
  · exact marks _ rfl

end

/-! ## Texts -/

theorem isSome_hexDigit?_digitChar
    {digit : Nat}
    (small : digit < 16) :
    (hexDigit? (Nat.digitChar digit)).isSome = true := by
  revert digit
  decide

theorem textBody_escapeCharacter
    (character : Char)
    {rest : List Char}
    (later : TextBody rest) :
    TextBody (escapeCharacter character ++ rest) := by
  unfold escapeCharacter
  split
  case h_8 notQuote notBackslash _ _ _ _ _ =>
    split
    next control =>
      refine .unit ?_ later
      have high := isSome_hexDigit?_digitChar (by omega : character.toNat / 16 < 16)
      have low := isSome_hexDigit?_digitChar (by omega : character.toNat % 16 < 16)
      simp only [List.forall_mem_cons, high, low]
      exact ⟨rfl, rfl, trivial, trivial, List.forall_mem_nil _⟩
    next notControl => exact .plain notQuote notBackslash (Nat.not_lt.mp notControl) later
  all_goals exact .letter rfl later

/-- Whatever characters a text has, it can be written. -/
theorem textBody_escape (content : List Char) : TextBody (escape content) := by
  induction content with
  | nil => exact .nil
  | cons character rest ih => exact textBody_escapeCharacter character ih

theorem textBody_of_all_isDigit
    {digits : List Char}
    (allDigits : digits.all isDigit = true) :
    TextBody digits := by
  induction digits with
  | nil => exact .nil
  | cons digit rest ih =>
      rw [List.all_cons, Bool.and_eq_true] at allDigits
      obtain ⟨isDigit, allDigits⟩ := allDigits
      refine .plain ?_ ?_ ?_ (ih allDigits)
      · rintro rfl
        cases isDigit
      · rintro rfl
        cases isDigit
      · rw [isDigit_eq, Char.isDigit, Bool.and_eq_true, decide_eq_true_iff] at isDigit
        exact Nat.le_trans (by decide) isDigit.1

/-! ## Values without layout -/

/-- No character of a text lays out lines. -/
def hasNoLayout (text : List Char) : Bool :=
  text.all fun character => !isLayout character

theorem hasNoLayout_of_all_inNumber
    {text : List Char}
    (all : text.all inNumber = true) :
    hasNoLayout text = true := by
  rw [List.all_eq_true] at all
  rw [hasNoLayout, List.all_eq_true]
  intro character member
  cases layout : isLayout character with
  | false => rfl
  | true =>
      have inNumber := all character member
      rw [isLayout, Bool.or_eq_true, beq_iff_eq, beq_iff_eq] at layout
      rcases layout with rfl | rfl <;> cases inNumber

/-- A proper token without characters that lay out lines. -/
structure Token.IsDense (token : Token) : Prop where
  proper : token.IsProper
  noLayout : hasNoLayout token.written = true

theorem Token.isDense_of_isMark
    (token : Token)
    (isMark : token.isMark = true) :
    token.IsDense := by
  cases token with
  | openArray | closeArray | openObject | closeObject | comma | colon => exact ⟨trivial, rfl⟩
  | null | boolean _ | number _ | text _ => cases isMark

/-- A value whose written form has no layout by itself. -/
def IsDense (json : Json) : Prop :=
  ∀ token ∈ json.tokens, token.IsDense

theorem isDense_null : null.IsDense := by
  intro token member
  obtain rfl := List.mem_singleton.mp member
  exact ⟨trivial, rfl⟩

theorem isDense_number
    {token : List Char}
    (isNumber : IsNumber token) :
    (number token).IsDense := by
  intro _ member
  obtain rfl := List.mem_singleton.mp member
  exact ⟨isNumber, hasNoLayout_of_all_inNumber isNumber.all_inNumber⟩

theorem isDense_array
    {items : List Json}
    (each : ∀ item ∈ items, item.IsDense) :
    (array items).IsDense :=
  forall_tokens_array Token.isDense_of_isMark each

theorem isDense_object
    {members : List (List Char × Json)}
    (each : ∀ entry ∈ members, (Token.text entry.1).IsDense ∧ entry.2.IsDense) :
    (object members).IsDense :=
  forall_tokens_object Token.isDense_of_isMark each

theorem hasNoLayout_inQuotes
    {body : List Char}
    (noLayout : hasNoLayout body = true) :
    hasNoLayout (inQuotes body) = true := by
  rw [hasNoLayout] at noLayout
  rw [hasNoLayout, inQuotes, List.all_cons, List.all_append, noLayout]
  rfl

namespace IsDense

variable {json : Json} (dense : json.IsDense)

include dense

theorem isProper : json.IsProper :=
  fun token member => (dense token member).proper

theorem hasNoLayout_compact : hasNoLayout json.compact = true := by
  rw [compact_eq_written, hasNoLayout, List.all_flatMap, List.all_eq_true]
  exact fun token member => (dense token member).noLayout

/-- The form over several lines differs from the other one in its layout only. -/
theorem filter_pretty :
    (json.pretty ++ ['\n']).filter (fun character => !isLayout character) = json.compact := by
  rw [Json.filter_pretty, List.filter_eq_self]
  exact List.all_eq_true.mp dense.hasNoLayout_compact

end IsDense

/-! ## Proper values -/

theorem isProper_object
    {members : List (List Char × Json)}
    (each : ∀ entry ∈ members, (Token.text entry.1).IsProper ∧ entry.2.IsProper) :
    (object members).IsProper :=
  forall_tokens_object (fun token isMark => (token.isDense_of_isMark isMark).proper) each

theorem isProper_ofFields
    {fields : List (String × Json)}
    (each : ∀ field ∈ fields, field.2.IsProper) :
    (ofFields fields).IsProper := by
  refine isProper_object fun entry member => ?_
  obtain ⟨field, inFields, rfl⟩ := List.mem_map.mp member
  exact ⟨textBody_escape _, each field inFields⟩

theorem isProper_ofText (content : List Char) : (ofText content).IsProper := by
  intro token member
  obtain rfl := List.mem_singleton.mp member
  exact textBody_escape content

/-! ## Exported values -/

/-- A number is exported as a number, or as null if it is not finite. -/
theorem ofFloat_cases (value : Float) :
    ofFloat value = null ∨ ∃ token, IsNumber token ∧ ofFloat value = number token := by
  unfold ofFloat
  split
  next token exchanged => exact .inr ⟨token, isNumber_exchanged exchanged, rfl⟩
  next => exact .inl rfl

theorem isDense_ofFloat (value : Float) : (ofFloat value).IsDense := by
  rcases ofFloat_cases value with isNull | ⟨token, isNumber, isToken⟩
  · rw [isNull]
    exact isDense_null
  · rw [isToken]
    exact isDense_number isNumber

theorem isDense_ofNat (value : Nat) : (ofNat value).IsDense :=
  isDense_number (isNumber_integer false value)

theorem isDense_ofInt (value : Int) : (ofInt value).IsDense :=
  isDense_number (isNumber_integer _ _)

theorem isDense_ofFields
    {fields : List (String × Json)}
    (each :
      ∀ field ∈ fields, hasNoLayout (escape field.1.toList) = true ∧ field.2.IsDense) :
    (ofFields fields).IsDense := by
  refine isDense_object fun entry member => ?_
  obtain ⟨field, inFields, rfl⟩ := List.mem_map.mp member
  obtain ⟨noLayout, dense⟩ := each field inFields
  exact ⟨⟨textBody_escape _, hasNoLayout_inQuotes noLayout⟩, dense⟩

theorem isDense_key (number : Nat) : (Token.text (Nat.toDigits 10 number)).IsDense := by
  have allDigits := all_isDigit_toDigits number
  refine ⟨textBody_of_all_isDigit allDigits, hasNoLayout_inQuotes ?_⟩
  exact hasNoLayout_of_all_inNumber (all_inNumber_of_isDigits (isDigits_toDigits number))

end Barrage.Json
