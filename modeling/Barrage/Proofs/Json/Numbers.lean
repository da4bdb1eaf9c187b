import Barrage.Json.Token
import Barrage.Proofs.Number.Shortest

/-!
# Numbers as tokens

A number of a JSON text begins with a digit or a minus sign and goes on with
digits, signs, points and marks of exponents (`IsNumber.begins`,
`IsNumber.all_inNumber`).  No such character ends a number, so it is read as a
whole.

Everything that is written as a number is one: integers
(`isNumber_integer`), and finite binary numbers, with a point or with an
exponent (`isNumber_exchanged`).
-/

namespace Barrage.Json

open Barrage.Number

/-- The characters of a number, from the first to the last. -/
def IsNumber (token : List Char) : Prop :=
  (NumberForm.read? token).isSome = true

/-! ## The characters of a number -/

theorem inNumber_of_isDigit
    {character : Char}
    (digit : isDigit character = true) :
    inNumber character = true := by
  simp [inNumber, digit]

theorem all_inNumber_of_isDigits
    {word : List Char}
    (digits : isDigits word = true) :
    word.all inNumber = true := by
  have allDigits := all_of_isDigits digits
  rw [List.all_eq_true] at allDigits ⊢
  intro character member
  exact inNumber_of_isDigit (allDigits character member)

theorem all_inNumber_of_split
    {word : List Char}
    (digits : isDigits (Sign.split word).2 = true) :
    word.all inNumber = true := by
  have rest := all_inNumber_of_isDigits digits
  unfold Sign.split at rest
  split at rest
  next => exact rest
  next => exact rest
  next => exact rest

namespace NumberForm

theorem all_inNumber_of_exponent?
    {word : List Char}
    (exponent : (exponent? word).isSome = true) :
    word.all inNumber = true := by
  cases word with
  | nil => rfl
  | cons mark rest =>
      rw [exponent?] at exponent
      split at exponent
      next isMark =>
        rw [List.all_cons, Bool.and_eq_true]
        constructor
        · rw [Bool.or_eq_true, beq_iff_eq, beq_iff_eq] at isMark
          rcases isMark with rfl | rfl <;> rfl
        · dsimp only at exponent
          split at exponent
          next digits => exact all_inNumber_of_split digits
          next => cases exponent
      next => cases exponent

theorem all_inNumber_of_fractionAndExponent?
    {word : List Char}
    (read : (fractionAndExponent? word).isSome = true) :
    word.all inNumber = true := by
  unfold fractionAndExponent? at read
  split at read
  next rest =>
    dsimp only at read
    split at read
    next digits =>
      rw [Option.isSome_map] at read
      rw [List.all_cons, ← List.takeWhile_append_dropWhile (p := isDigit) (l := rest),
        List.all_append, all_inNumber_of_isDigits digits, all_inNumber_of_exponent? read]
      rfl
    next => cases read
  next =>
    rw [Option.isSome_map] at read
    exact all_inNumber_of_exponent? read

theorem of_unsigned?
    {negative : Bool}
    {body : List Char}
    (read : (unsigned? negative body).isSome = true) :
    (∃ first rest, body = first :: rest ∧ isDigit first = true) ∧ body.all inNumber = true := by
  rw [unsigned?] at read
  dsimp only at read
  split at read
  next whole =>
    rw [isWhole, Bool.and_eq_true] at whole
    rw [Option.isSome_map] at read
    constructor
    · cases body with
      | nil => cases whole.1
      | cons first rest =>
          refine ⟨first, rest, rfl, ?_⟩
          cases digit : isDigit first with
          | true => rfl
          | false =>
              rw [List.takeWhile_cons_of_neg (by simp [digit])] at whole
              cases whole.1
    · rw [← List.takeWhile_append_dropWhile (p := isDigit) (l := body), List.all_append,
        all_inNumber_of_isDigits whole.1, all_inNumber_of_fractionAndExponent? read]
      rfl
  next => cases read

end NumberForm

namespace IsNumber

variable {token : List Char} (isNumber : IsNumber token)

include isNumber

/-- A number begins with a digit or a minus sign. -/
theorem begins :
    ∃ first rest, token = first :: rest ∧ (isDigit first || first == '-') = true := by
  unfold IsNumber NumberForm.read? at isNumber
  split at isNumber
  next body => exact ⟨'-', body, rfl, rfl⟩
  next =>
    obtain ⟨⟨first, rest, rfl, digit⟩, -⟩ := NumberForm.of_unsigned? isNumber
    exact ⟨first, rest, rfl, by rw [digit, Bool.true_or]⟩

theorem all_inNumber : token.all inNumber = true := by
  unfold IsNumber NumberForm.read? at isNumber
  split at isNumber
  next body =>
    rw [List.all_cons, (NumberForm.of_unsigned? isNumber).2]
    rfl
  next => exact (NumberForm.of_unsigned? isNumber).2

end IsNumber

/-! ## Written numbers -/

/-- A text that does not go on with a digit. -/
def EndsDigits (text : List Char) : Prop :=
  ∀ character ∈ text.head?, isDigit character = false

theorem endsDigits_nil : EndsDigits [] := by
  intro character member
  cases member

theorem endsDigits_cons
    {first : Char}
    (notDigit : isDigit first = false)
    (rest : List Char) :
    EndsDigits (first :: rest) := by
  intro character member
  cases member
  exact notDigit

theorem takeWhile_isDigit
    {digits rest : List Char}
    (allDigits : digits.all isDigit = true)
    (ends : EndsDigits rest) :
    (digits ++ rest).takeWhile isDigit = digits ∧ (digits ++ rest).dropWhile isDigit = rest := by
  rw [List.all_eq_true] at allDigits
  rw [List.takeWhile_append_of_pos allDigits, List.dropWhile_append_of_pos allDigits]
  cases rest with
  | nil => simp
  | cons first others =>
      have notDigit : ¬ isDigit first = true := by
        rw [ends first rfl]
        exact Bool.false_ne_true
      rw [List.takeWhile_cons_of_neg notDigit, List.dropWhile_cons_of_neg notDigit,
        List.append_nil]
      exact ⟨rfl, rfl⟩

namespace NumberForm

theorem isSome_exponent?
    {sign : Char}
    (isSign : sign = '+' ∨ sign = '-')
    {digits : List Char}
    (someDigits : isDigits digits = true) :
    (exponent? ('e' :: sign :: digits)).isSome = true := by
  rcases isSign with rfl | rfl <;> simp [exponent?, Sign.split, someDigits]

theorem isSome_fractionAndExponent?_point
    {digits rest : List Char}
    (someDigits : isDigits digits = true)
    (ends : EndsDigits rest)
    (exponent : (exponent? rest).isSome = true) :
    (fractionAndExponent? ('.' :: (digits ++ rest))).isSome = true := by
  obtain ⟨taken, dropped⟩ := takeWhile_isDigit (all_of_isDigits someDigits) ends
  simp only [fractionAndExponent?, taken, dropped, someDigits, if_true, Option.isSome_map,
    exponent]

theorem isSome_unsigned?
    {whole rest : List Char}
    (negative : Bool)
    (isWhole : isWhole whole = true)
    (ends : EndsDigits rest)
    (read : (fractionAndExponent? rest).isSome = true) :
    (unsigned? negative (whole ++ rest)).isSome = true := by
  have someDigits : isDigits whole = true := by
    rw [NumberForm.isWhole, Bool.and_eq_true] at isWhole
    exact isWhole.1
  obtain ⟨taken, dropped⟩ := takeWhile_isDigit (all_of_isDigits someDigits) ends
  simp only [unsigned?, taken, dropped, isWhole, if_true, Option.isSome_map, read]

end NumberForm

/-- A sign, the digits before the point, and what may come after them. -/
theorem isNumber_signed
    {whole rest : List Char}
    (negative : Bool)
    (isWhole : NumberForm.isWhole whole = true)
    (ends : EndsDigits rest)
    (read : (NumberForm.fractionAndExponent? rest).isSome = true) :
    IsNumber (signed negative (whole ++ rest)) := by
  cases negative with
  | true => exact NumberForm.isSome_unsigned? true isWhole ends read
  | false =>
      have isUnsigned := NumberForm.isSome_unsigned? false isWhole ends read
      obtain ⟨⟨first, others, begins, digit⟩, -⟩ := NumberForm.of_unsigned? isUnsigned
      have notMinus : first ≠ '-' := by
        rintro rfl
        cases digit
      rw [IsNumber, signed, if_neg Bool.false_ne_true, NumberForm.read?]
      · exact isUnsigned
      · intro body same
        rw [begins] at same
        exact notMinus (List.cons.inj same).1

theorem isWhole_toDigits
    (number : Nat) :
    NumberForm.isWhole (Nat.toDigits 10 number) = true := by
  rw [NumberForm.isWhole, isDigits_toDigits, Bool.true_and, Bool.or_eq_true]
  by_cases zero : number = 0
  · subst zero
    exact .inl rfl
  · exact .inr (bne_iff_ne.mpr (head?_toDigits_ne zero))

/-- The digits of an integer with its sign are a number. -/
theorem isNumber_integer
    (negative : Bool)
    (magnitude : Nat) :
    IsNumber (signed negative (Nat.toDigits 10 magnitude)) := by
  rw [← List.append_nil (Nat.toDigits 10 magnitude)]
  refine isNumber_signed negative (isWhole_toDigits magnitude) ?_ rfl
  intro character member
  cases member

theorem isDigits_of_head?
    {word : List Char}
    {first : Char}
    (isFirst : word.head? = some first)
    (allDigits : word.all isDigit = true) :
    isDigits word = true := by
  cases word with
  | nil => cases isFirst
  | cons => rw [isDigits, allDigits]; rfl

theorem isWhole_of_head?
    {word : List Char}
    {first : Char}
    (isFirst : word.head? = some first)
    (notZero : first ≠ '0')
    (allDigits : word.all isDigit = true) :
    NumberForm.isWhole word = true := by
  rw [NumberForm.isWhole, isDigits_of_head? isFirst allDigits, isFirst, Bool.true_and,
    Bool.or_eq_true, bne_iff_ne, Ne, Option.some.injEq]
  exact .inr notZero

theorem all_isDigit_zeros (count : Nat) : (zeros count).all isDigit = true := by
  rw [zeros, List.all_replicate]
  exact ite_eq_left_iff.mpr fun _ => rfl

theorem exists_head?_toDigits
    {number : Nat}
    (positive : number ≠ 0) :
    ∃ first, (Nat.toDigits 10 number).head? = some first ∧ first ≠ '0' := by
  have leads := head?_toDigits_ne positive
  rw [List.head?_eq_some_head Nat.toDigits_ne_nil] at leads ⊢
  exact ⟨_, rfl, fun zero => leads (congrArg some zero)⟩

section Decimal

variable (decimal : Decimal)

/-- The digits of a positive decimal before its point. -/
theorem isWhole_parts
    (positive : decimal.digits ≠ 0) :
    NumberForm.isWhole decimal.parts.1 = true := by
  have allDigits := all_isDigit_toDigits decimal.digits
  obtain ⟨first, isFirst, notZero⟩ := exists_head?_toDigits positive
  unfold Decimal.parts
  dsimp only
  split
  next =>
    refine isWhole_of_head? ?_ notZero ?_
    · rw [List.head?_append, isFirst]
      rfl
    · rw [List.all_append, allDigits, all_isDigit_zeros]
      rfl
  next =>
    split
    next fewer =>
      refine isWhole_of_head? ?_ notZero ?_
      · rw [List.head?_take, if_neg (by omega), isFirst]
      · exact List.all_eq_true.mpr fun digit member =>
          List.all_eq_true.mp allDigits digit (List.mem_of_mem_take member)
    next => rfl

theorem all_isDigit_parts : decimal.parts.2.all isDigit = true := by
  have allDigits := all_isDigit_toDigits decimal.digits
  unfold Decimal.parts
  dsimp only
  split
  next => rfl
  next =>
    split
    next =>
      exact List.all_eq_true.mpr fun digit member =>
        List.all_eq_true.mp allDigits digit (List.mem_of_mem_drop member)
    next =>
      rw [List.all_append, allDigits, all_isDigit_zeros]
      rfl

theorem isNumber_withPoint
    (negative : Bool)
    (positive : decimal.digits ≠ 0) :
    IsNumber (signed negative decimal.withPoint) := by
  have someDigits :
      isDigits (if decimal.parts.2.isEmpty then ['0'] else decimal.parts.2) = true := by
    split
    next => rfl
    next notEmpty =>
      rw [isDigits, all_isDigit_parts, Bool.and_true, Bool.not_eq_true']
      exact Bool.eq_false_iff.mpr notEmpty
  have read :=
    NumberForm.isSome_fractionAndExponent?_point someDigits endsDigits_nil rfl
  rw [List.append_nil] at read
  exact isNumber_signed negative (isWhole_parts decimal positive) (endsDigits_cons rfl _) read

/-- One digit, a point before further digits, and an exponent with its sign. -/
theorem isNumber_withExponent
    (negative : Bool) :
    IsNumber (signed negative decimal.withExponent) := by
  have allDigits := all_isDigit_toDigits decimal.digits
  have notNil : Nat.toDigits 10 decimal.digits ≠ [] := Nat.toDigits_ne_nil
  obtain ⟨sign, isSign, mark⟩ :
      ∃ sign, (sign = '+' ∨ sign = '-') ∧
        (if decimal.leadingExponent < 0 then ['e', '-'] else ['e', '+']) = ['e', sign] := by
    split
    · exact ⟨'-', .inr rfl, rfl⟩
    · exact ⟨'+', .inl rfl, rfl⟩
  have exponent :=
    NumberForm.isSome_exponent? isSign (isDigits_toDigits decimal.leadingExponent.natAbs)
  have single {digit : Char} (isDigit : isDigit digit = true) :
      NumberForm.isWhole [digit] = true := by
    rw [NumberForm.isWhole, isDigits, List.all_cons, isDigit]
    rfl
  unfold Decimal.withExponent
  dsimp only
  rw [mark, List.append_assoc]
  split
  next first second rest digits =>
    rw [digits, List.all_cons, Bool.and_eq_true] at allDigits
    have read :=
      NumberForm.isSome_fractionAndExponent?_point
        (isDigits_of_head? rfl allDigits.2) (endsDigits_cons rfl _) exponent
    show IsNumber (signed negative ([first] ++ '.' :: (second :: rest ++ _)))
    exact isNumber_signed negative (single allDigits.1) (endsDigits_cons rfl _) read
  next notSeveral =>
    obtain ⟨digit, digits⟩ : ∃ digit, Nat.toDigits 10 decimal.digits = [digit] := by
      rcases digits : Nat.toDigits 10 decimal.digits with _ | ⟨first, _ | ⟨second, rest⟩⟩
      · exact absurd digits notNil
      · exact ⟨first, rfl⟩
      · exact absurd digits (notSeveral first second rest)
    have read :
        (NumberForm.fractionAndExponent?
          ('e' :: sign :: Nat.toDigits 10 decimal.leadingExponent.natAbs)).isSome = true := by
      rw [NumberForm.fractionAndExponent?, Option.isSome_map]
      · exact exponent
      · intro rest same
        cases same
    rw [digits, List.all_cons, Bool.and_eq_true] at allDigits
    rw [digits]
    exact isNumber_signed negative (single allDigits.1) (endsDigits_cons rfl _) read

end Decimal

/-- A finite binary number is written as a number. -/
theorem isNumber_exchanged
    {value : Float}
    {token : List Char}
    (exchanged : exchanged? value = some token) :
    IsNumber token := by
  unfold exchanged? at exchanged
  split at exchanged
  next negative significand exponent _ =>
    rw [Option.some.injEq] at exchanged
    subst exchanged
    split
    next =>
      show IsNumber (signed negative (['0'] ++ ['.', '0']))
      exact isNumber_signed negative rfl (endsDigits_cons rfl _) rfl
    next positive =>
      dsimp only
      split
      next small =>
        refine isNumber_withPoint _ negative ?_
        rcases Decimal.shortest_cases .toEven positive exponent with positive | notFound
        · exact positive
        · rw [notFound] at small
          exact absurd small (by decide)
      next => exact isNumber_withExponent _ negative
  next => cases exchanged

end Barrage.Json
