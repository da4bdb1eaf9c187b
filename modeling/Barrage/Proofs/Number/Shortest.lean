import Barrage.Number.Written
import Barrage.Proofs.Number.Digits

/-!
# The digits of the shortest decimal

The interval around a positive binary number does not reach zero, and no more
do the decimals in it.  So the digits of the shortest one are those of a
positive number, and written out they begin with no superfluous zero.
-/

namespace Barrage.Number

namespace Interval

theorem holds_zero
    {interval : Interval}
    (positive : 0 < interval.lower) :
    interval.holds 0 = false := by
  have notLow : ¬ interval.lower ≤ 0 := Nat.not_le.mpr positive
  have notBelow : ¬ interval.lower < 0 := Nat.not_lt_zero interval.lower
  simp only [holds, Nat.zero_mul, notLow, notBelow, decide_false, Bool.false_and, ite_self]

theorem nearest?_ne_zero
    {interval : Interval}
    (positive : 0 < interval.lower)
    {tie : Tie}
    {number : Nat}
    (nearest : interval.nearest? tie = some number) :
    number ≠ 0 := by
  have below_ne_zero (holds : interval.holds (interval.middle / interval.denominator) = true) :
      interval.middle / interval.denominator ≠ 0 := by
    intro zero
    rw [zero, holds_zero positive] at holds
    cases holds
  unfold nearest? at nearest
  dsimp only at nearest
  split at nearest
  next => cases nearest
  next holds _ =>
    cases nearest
    exact below_ne_zero holds
  next =>
    cases nearest
    exact Nat.succ_ne_zero _
  next holds _ =>
    have oneOfBoth : number = interval.middle / interval.denominator ∨
        number = interval.middle / interval.denominator + 1 := by
      grind
    rcases oneOfBoth with rfl | rfl
    · exact below_ne_zero holds
    · exact Nat.succ_ne_zero _

theorem lower_around_pos
    {significand : Nat}
    (positive : significand ≠ 0)
    (exponent : Int) :
    0 < (around significand exponent).lower := by
  have factorPositive : 0 < (if 0 ≤ exponent - 2 then Nat.pow 2 (exponent - 2).toNat else 1) := by
    split
    · exact Nat.pow_pos (by decide)
    · decide
  refine Nat.mul_pos ?_ factorPositive
  split <;> omega

theorem lower_divideByPower_pos
    {interval : Interval}
    (positive : 0 < interval.lower)
    (exponent : Int) :
    0 < (interval.divideByPower exponent).lower :=
  Nat.mul_pos positive (Nat.pow_pos (by decide))

end Interval

namespace Decimal

theorem digits_normalize_ne_zero
    (fuel : Nat)
    {decimal : Decimal}
    (positive : decimal.digits ≠ 0) :
    (normalize fuel decimal).digits ≠ 0 := by
  induction fuel generalizing decimal with
  | zero => exact positive
  | succ fuel ih =>
      rw [normalize]
      split
      next => exact ih (by dsimp only; omega)
      next => exact positive

/-- The shortest decimal is positive, unless none was found. -/
theorem shortest_cases
    (tie : Tie)
    {significand : Nat}
    (positive : significand ≠ 0)
    (exponent : Int) :
    (shortest tie significand exponent).digits ≠ 0 ∨
      shortest tie significand exponent = ⟨0, 20⟩ := by
  rw [shortest]
  dsimp only
  cases search : (List.range 17).findSome? fun extra =>
      (((Interval.around significand exponent).divideByPower
          ((Interval.around significand exponent).leadingExponent - (extra : Nat))).nearest?
        tie).map fun digits =>
          Decimal.mk digits ((Interval.around significand exponent).leadingExponent - (extra : Nat)) with
  | none => exact .inr rfl
  | some found =>
      left
      obtain ⟨extra, -, nearest⟩ := List.exists_of_findSome?_eq_some search
      obtain ⟨digits, isNearest, rfl⟩ := Option.map_eq_some_iff.mp nearest
      have reachesNotZero :=
        Interval.lower_divideByPower_pos (Interval.lower_around_pos positive exponent)
          ((Interval.around significand exponent).leadingExponent - (extra : Nat))
      exact digits_normalize_ne_zero 20 (Interval.nearest?_ne_zero reachesNotZero isNearest)

end Decimal

end Barrage.Number
