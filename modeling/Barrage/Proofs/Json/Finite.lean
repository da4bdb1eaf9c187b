import Barrage.Json.Number
import Barrage.Proofs.Number.Rounding

/-!
# Numbers that are read are finite

The digits of a number are collected into 64 bits.  A power of ten then divides
them, which makes them smaller, or multiplies them.  If the product is an infinity,
the number has no value.  So every number that has a value has a finite one.
-/

namespace Barrage.Json

open Barrage.Number

/-! ## Powers of ten -/

theorem isFinite_powerOfTen
    {power : Nat}
    (small : power ≤ 308) :
    (powerOfTen power).isFinite = true := by
  rcases Nat.eq_zero_or_pos power with rfl | positive
  · rfl
  · exact Unpacked.isFinite_of_isAtLeastTwo (isAtLeastTwo_powerOfTen positive small)

theorem isFinite_divideByPower
    {value : Float}
    (finite : value.isFinite = true)
    {power : Nat}
    (positive : 0 < power) :
    (divideByPower value power).isFinite = true := by
  fun_induction divideByPower value power with
  | case1 value power small => exact isFinite_div finite (isAtLeastTwo_powerOfTen positive small)
  | case2 value power large isZero => exact finite
  | case3 value power large notZero ih =>
      refine ih (isFinite_div finite ?_) (by omega)
      exact isAtLeastTwo_powerOfTen (by decide) (Nat.le_refl 308)

theorem isFinite_of_scaled?
    {significand : Nat}
    {scale : Int}
    {value : Float}
    (held : significand < wordLimit)
    (scaled : scaled? significand scale = some value) :
    value.isFinite = true := by
  have start : (Float.ofNat significand).isFinite = true := isFinite_ofNat held
  unfold scaled? at scaled
  dsimp only at scaled
  split at scaled
  next negative =>
    cases scaled
    exact isFinite_divideByPower start (by omega)
  next =>
    split at scaled
    next =>
      obtain ⟨-, same⟩ := Option.ite_none_right_eq_some.mp scaled
      cases same
      exact start
    next small =>
      obtain ⟨notInfinite, same⟩ := Option.ite_none_left_eq_some.mp scaled
      cases same
      exact isFinite_mul start (isFinite_powerOfTen (by omega)) (Bool.eq_false_iff.mpr notInfinite)

/-! ## Collected digits -/

namespace Collected

variable {collected : Collected} (held : collected.significand < wordLimit)

include held

theorem significand_addWhole_lt (digit : Char) :
    (collected.addWhole digit).significand < wordLimit := by
  rw [addWhole]
  split
  next => exact held
  next room =>
    rw [Bool.or_eq_true, decide_eq_true_eq, not_or] at room
    exact Nat.lt_of_not_le room.2

theorem significand_addFraction_lt (digit : Char) :
    (collected.addFraction digit).significand < wordLimit := by
  rw [addFraction]
  split
  next => exact held
  next room =>
    rw [Bool.or_eq_true, decide_eq_true_eq, not_or] at room
    exact Nat.lt_of_not_le room.2

/-- Whatever digits are added, 64 bits hold the significand. -/
theorem significand_foldl_lt
    {add : Collected → Char → Collected}
    (step : ∀ collected digit, collected.significand < wordLimit →
      (add collected digit).significand < wordLimit)
    (digits : List Char) :
    (digits.foldl add collected).significand < wordLimit := by
  induction digits generalizing collected with
  | nil => exact held
  | cons digit rest ih => exact ih (step collected digit held)

end Collected

/-! ## Values -/

theorem NumberForm.isFinite_of_real?
    {form : NumberForm}
    {value : Float}
    (isReal : form.real? = some value) :
    value.isFinite = true := by
  obtain ⟨magnitude, scaled, rfl⟩ := Option.map_eq_some_iff.mp isReal
  have finite : magnitude.isFinite = true := by
    refine isFinite_of_scaled? ?_ scaled
    refine Collected.significand_foldl_lt ?_
      (fun _ digit held => Collected.significand_addFraction_lt held digit) _
    exact Collected.significand_foldl_lt (by decide)
      (fun _ digit held => Collected.significand_addWhole_lt held digit) _
  split
  next => exact isFinite_neg finite
  next => exact finite

theorem NumberForm.natAbs_lt_of_integer?
    {form : NumberForm}
    {value : Int}
    (isInteger : form.integer? = some value) :
    value.natAbs < wordLimit := by
  unfold integer? at isInteger
  obtain ⟨-, isInteger⟩ := Option.ite_none_right_eq_some.mp isInteger
  dsimp only at isInteger
  split at isInteger
  next =>
    obtain ⟨⟨-, small⟩, same⟩ := Option.ite_none_right_eq_some.mp isInteger
    cases same
    rw [Int.natAbs_neg, Int.natAbs_natCast]
    exact Nat.lt_of_le_of_lt small (by decide)
  next =>
    obtain ⟨small, same⟩ := Option.ite_none_right_eq_some.mp isInteger
    cases same
    rwa [Int.natAbs_natCast]

section NumberValue

variable {token : List Char}

theorem isFinite_of_numberValue?_eq_real
    {value : Float}
    (denotes : numberValue? token = some (.real value)) :
    value.isFinite = true := by
  obtain ⟨form, -, isValue⟩ := Option.bind_eq_some_iff.mp denotes
  unfold NumberForm.value? at isValue
  split at isValue
  next => cases isValue
  next =>
    obtain ⟨number, isReal, same⟩ := Option.map_eq_some_iff.mp isValue
    cases same
    exact form.isFinite_of_real? isReal

theorem isFinite_of_numberValue?_eq_integer
    {whole : Int}
    (denotes : numberValue? token = some (.integer whole)) :
    (Float.ofInt whole).isFinite = true := by
  obtain ⟨form, -, isValue⟩ := Option.bind_eq_some_iff.mp denotes
  unfold NumberForm.value? at isValue
  split at isValue
  next number isInteger =>
    cases isValue
    exact isFinite_ofInt (form.natAbs_lt_of_integer? isInteger)
  next =>
    obtain ⟨number, -, same⟩ := Option.map_eq_some_iff.mp isValue
    cases same

end NumberValue

end Barrage.Json
