import Barrage.Number.Binary
import Mathlib.Data.Rat.Cast.Order
import Mathlib.Tactic.FieldSimp
import Mathlib.Tactic.Linarith
import Mathlib.Tactic.NormNum

/-!
# Whole numbers among the binary numbers

A binary number is taken for an integer only when it is one.  `Binary.exact`
is the rational number that a finite binary number stands for, and
`wholeNumber?` answers with an integer exactly when that rational number is
this integer and its size is below `2 ^ 63`.
-/

namespace Barrage.Number

/-- The rational number that a sign, a significand and an exponent stand for. -/
def Binary.exact
    (negative : Bool)
    (significand : Nat)
    (exponent : Int) : ℚ :=
  (if negative then -1 else 1) * (significand * (2 : ℚ) ^ exponent)

/-- A binary number is finite and has exactly this value, which 64 bits with a sign can hold. -/
def IsWhole
    (value : Float)
    (whole : Int) : Prop :=
  ∃ negative significand exponent,
    Binary.ofFloat value = .finite negative significand exponent ∧
      Binary.exact negative significand exponent = whole ∧
        whole.natAbs < 0x8000000000000000

/-- The number of units that a significand holds, where it holds a whole number of them. -/
def wholeMagnitude?
    (significand : Nat)
    (exponent : Int) : Option Nat :=
  if 0 ≤ exponent then some (significand * Nat.pow 2 exponent.toNat)
  else
    let unit := Nat.pow 2 (-exponent).toNat
    if significand % unit = 0 then some (significand / unit) else none

theorem wholeMagnitude?_eq_some_iff
    {significand magnitude : Nat}
    {exponent : Int} :
    wholeMagnitude? significand exponent = some magnitude ↔
      (significand : ℚ) * (2 : ℚ) ^ exponent = magnitude := by
  rw [wholeMagnitude?]
  split
  next nonnegative =>
    obtain ⟨places, rfl⟩ := Int.eq_ofNat_of_zero_le nonnegative
    simp only [Int.toNat_natCast, Option.some.injEq, zpow_natCast, Nat.pow_eq]
    exact_mod_cast Iff.rfl
  next negative =>
    obtain ⟨places, rfl⟩ : ∃ places : Nat, exponent = -(places : Int) :=
      ⟨exponent.natAbs, by omega⟩
    have unitPositive : 0 < 2 ^ places := Nat.pow_pos (by decide)
    have asProduct :
        (significand : ℚ) * (2 : ℚ) ^ (-(places : Int)) = magnitude ↔
          significand = magnitude * 2 ^ places := by
      rw [zpow_neg, zpow_natCast, ← div_eq_mul_inv, div_eq_iff (by positivity)]
      exact_mod_cast Iff.rfl
    simp only [neg_neg, Int.toNat_natCast, Nat.pow_eq, asProduct]
    constructor
    · intro found
      split at found
      next divisible =>
        cases found
        exact (Nat.div_mul_cancel (Nat.dvd_of_mod_eq_zero divisible)).symm
      next => cases found
    · rintro rfl
      rw [if_pos (Nat.mul_mod_left _ _), Nat.mul_div_cancel _ unitPositive]

/-- The value is an integer exactly when its magnitude is that of the integer and the signs agree. -/
theorem Binary.exact_eq_iff
    {negative : Bool}
    {significand : Nat}
    {exponent whole : Int} :
    Binary.exact negative significand exponent = whole ↔
      (significand : ℚ) * (2 : ℚ) ^ exponent = whole.natAbs ∧
        whole = if negative then -(whole.natAbs : Int) else whole.natAbs := by
  have size : (0 : ℚ) ≤ significand * (2 : ℚ) ^ exponent :=
    mul_nonneg (Nat.cast_nonneg _) (zpow_nonneg (by norm_num) _)
  have natAbsCast : ((whole.natAbs : Nat) : ℚ) = ((whole.natAbs : Int) : ℚ) :=
    (Int.cast_natCast _).symm
  rw [Binary.exact, natAbsCast]
  generalize (significand : ℚ) * (2 : ℚ) ^ exponent = magnitude at size ⊢
  cases negative with
  | false =>
      simp only [Bool.false_eq_true, if_false, one_mul]
      constructor
      · rintro rfl
        have sign : 0 ≤ whole := by exact_mod_cast size
        have natAbs : (whole.natAbs : Int) = whole := Int.natAbs_of_nonneg sign
        exact ⟨by rw [natAbs], natAbs.symm⟩
      · rintro ⟨rfl, sign⟩
        rw [← sign]
  | true =>
      simp only [if_true, neg_mul, one_mul]
      constructor
      · intro value
        have opposite : magnitude = ((-whole : Int) : ℚ) := by
          push_cast
          linarith
        have sign : 0 ≤ -whole := by
          rw [opposite] at size
          exact_mod_cast size
        have natAbs : (whole.natAbs : Int) = -whole := by omega
        exact ⟨by rw [opposite, natAbs], by omega⟩
      · rintro ⟨rfl, sign⟩
        rw [← Int.cast_neg, ← sign]

theorem wholeNumber?_of_finite
    {value : Float}
    {negative : Bool}
    {significand : Nat}
    {exponent : Int}
    (parts : Binary.ofFloat value = .finite negative significand exponent) :
    wholeNumber? value =
      ((wholeMagnitude? significand exponent).filter (· < 0x8000000000000000)).map
        fun (size : Nat) => if negative then -(size : Int) else size := by
  rw [wholeNumber?, parts]
  rfl

theorem wholeNumber?_eq_some_iff
    {value : Float}
    {whole : Int} :
    wholeNumber? value = some whole ↔ IsWhole value whole := by
  constructor
  · intro found
    cases parts : Binary.ofFloat value with
    | notANumber => simp [wholeNumber?, parts] at found
    | infinite negative => simp [wholeNumber?, parts] at found
    | finite negative significand exponent =>
        rw [wholeNumber?_of_finite parts, Option.map_eq_some_iff] at found
        obtain ⟨magnitude, kept, rfl⟩ := found
        obtain ⟨exact, small⟩ := Option.filter_eq_some_iff.mp kept
        have size := wholeMagnitude?_eq_some_iff.mp exact
        refine ⟨negative, significand, exponent, parts, ?_, ?_⟩
        · rw [Binary.exact_eq_iff]
          cases negative <;> simp [size]
        · cases negative <;> simpa using small
  · rintro ⟨negative, significand, exponent, parts, exact, small⟩
    obtain ⟨magnitude, sign⟩ := Binary.exact_eq_iff.mp exact
    rw [wholeNumber?_of_finite parts, wholeMagnitude?_eq_some_iff.mpr magnitude,
      Option.filter_some, if_pos (decide_eq_true small)]
    exact congrArg some sign.symm

end Barrage.Number
