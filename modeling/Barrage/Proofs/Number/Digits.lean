import Barrage.Number.Numeral
import Barrage.Number.Written
import Mathlib.Data.List.Induction

/-!
# Written integers

The digits of a natural number are read back as the number, and so are those of
an integer with its sign.  So different numbers are written differently.  Only
zero is written with a zero in front.
-/

namespace Barrage.Number

theorem isDigit_eq (character : Char) : isDigit character = character.isDigit := by
  rw [isDigit, Char.isDigit]
  rfl

theorem all_of_isDigits
    {word : List Char}
    (digits : isDigits word = true) :
    word.all isDigit = true := by
  rw [isDigits, Bool.and_eq_true] at digits
  exact digits.2

/-! ## Natural numbers -/

theorem all_isDigit_toDigits (number : Nat) : (Nat.toDigits 10 number).all isDigit = true := by
  rw [List.all_eq_true]
  intro digit member
  rw [isDigit_eq]
  exact Nat.isDigit_of_mem_toDigits (by decide) (by decide) member

theorem isDigits_toDigits (number : Nat) : isDigits (Nat.toDigits 10 number) = true := by
  rw [isDigits, all_isDigit_toDigits, Bool.and_true, Bool.not_eq_true', List.isEmpty_eq_false_iff]
  exact Nat.toDigits_ne_nil

@[simp]
theorem digitsValue_toDigits (number : Nat) : digitsValue (Nat.toDigits 10 number) = number :=
  Nat.ofDigitChars_ten_toDigits

theorem toDigits_inj
    {number other : Nat} :
    Nat.toDigits 10 number = Nat.toDigits 10 other ↔ number = other := by
  constructor
  · intro same
    rw [← digitsValue_toDigits number, same, digitsValue_toDigits]
  · exact congrArg (Nat.toDigits 10)

/-- Only zero is written with a zero in front. -/
theorem head?_toDigits_ne
    {number : Nat}
    (notZero : number ≠ 0) :
    (Nat.toDigits 10 number).head? ≠ some '0' := by
  induction number using Nat.base_induction 10 (by decide) with
  | single digit small =>
      rw [Nat.toDigits_of_lt_base small, List.head?_cons, Ne, Option.some.injEq]
      intro isZero
      have value := Nat.toNat_digitChar_sub_48_of_lt_ten small
      rw [isZero] at value
      exact notZero value.symm
  | digit front last small positive ih =>
      have ih := ih (Nat.ne_of_gt positive)
      rw [List.head?_eq_some_head Nat.toDigits_ne_nil] at ih
      rw [← Nat.toDigits_append_toDigits (by decide) positive small, List.head?_append,
        List.head?_eq_some_head Nat.toDigits_ne_nil]
      exact ih

theorem digitValue_lt
    {digit : Char}
    (isDigit : isDigit digit = true) :
    digitValue digit < 10 := by
  rw [isDigit_eq, Char.isDigit, Bool.and_eq_true, decide_eq_true_iff, decide_eq_true_iff] at isDigit
  have high : digit.toNat ≤ 57 := isDigit.2
  show digit.toNat - 48 < 10
  omega

theorem digitChar_digitValue
    {digit : Char}
    (isDigit : isDigit digit = true) :
    Nat.digitChar (digitValue digit) = digit := by
  have small := digitValue_lt isDigit
  rw [isDigit_eq, Char.isDigit, Bool.and_eq_true, decide_eq_true_iff, decide_eq_true_iff] at isDigit
  have low : 48 ≤ digit.toNat := isDigit.1
  have code : digit.toNat = digitValue digit + 48 := by
    show digit.toNat = digit.toNat - 48 + 48
    omega
  rw [← Char.toNat_inj, code]
  generalize digitValue digit = value at small
  revert value
  decide

theorem digitsValue_append_singleton
    (front : List Char)
    (last : Char) :
    digitsValue (front ++ [last]) = 10 * digitsValue front + digitValue last := by
  rw [digitsValue, digitsValueFrom_append, digitsValueFrom_cons, digitsValueFrom_nil]
  rfl

/-- Digits without a zero in front are those of their value. -/
theorem toDigits_digitsValue
    {word : List Char}
    (digits : isDigits word = true)
    (leads : word.head? ≠ some '0') :
    Nat.toDigits 10 (digitsValue word) = word := by
  induction word using List.reverseRecOn with
  | nil => cases digits
  | append_singleton front last ih =>
      have allDigits := all_of_isDigits digits
      rw [List.all_append, Bool.and_eq_true] at allDigits
      have isDigit : isDigit last = true := by simpa using allDigits.2
      have small := digitValue_lt isDigit
      rw [digitsValue_append_singleton]
      cases front with
      | nil =>
          rw [show digitsValue [] = 0 from rfl, Nat.mul_zero, Nat.zero_add,
            Nat.toDigits_of_lt_base small, digitChar_digitValue isDigit]
          rfl
      | cons first rest =>
          have read := ih allDigits.1 leads
          have positive : 0 < digitsValue (first :: rest) := by
            refine Nat.pos_of_ne_zero fun zero => leads ?_
            rw [zero] at read
            rw [← read]
            rfl
          rw [← Nat.toDigits_append_toDigits (by decide) positive small, read,
            Nat.toDigits_of_lt_base small, digitChar_digitValue isDigit]

/-! ## Integers -/

theorem split_of_not_sign
    {first : Char}
    (notPlus : first ≠ '+')
    (notMinus : first ≠ '-')
    (rest : List Char) :
    Sign.split (first :: rest) = (.none, first :: rest) := by
  rw [Sign.split]
  · intro _ same
    exact notPlus (List.cons.inj same).1
  · intro _ same
    exact notMinus (List.cons.inj same).1

theorem split_of_isDigits
    {word : List Char}
    (digits : isDigits word = true) :
    Sign.split word = (.none, word) := by
  cases word with
  | nil => rfl
  | cons first rest =>
      have isDigit : isDigit first = true := by
        simp only [isDigits, List.all_cons, Bool.and_eq_true] at digits
        exact digits.2.1
      refine split_of_not_sign ?_ ?_ rest
      · rintro rfl
        revert isDigit
        decide
      · rintro rfl
        revert isDigit
        decide

/-- An integer is read back from its digits and its sign. -/
theorem integer?_signed
    (value : Int) :
    integer? (signed (value < 0) (Nat.toDigits 10 value.natAbs)) = some value := by
  have digits := isDigits_toDigits value.natAbs
  by_cases negative : value < 0
  · have minus : -(value.natAbs : Int) = value := by omega
    simp only [signed, negative, decide_true, if_true, integer?, Sign.split, digits,
      digitsValue_toDigits, Sign.apply, minus]
  · have plain : (value.natAbs : Int) = value := by omega
    simp only [signed, negative, decide_false, Bool.false_eq_true, if_false, integer?,
      split_of_isDigits digits, digits, if_true, digitsValue_toDigits, Sign.apply, plain]

end Barrage.Number
