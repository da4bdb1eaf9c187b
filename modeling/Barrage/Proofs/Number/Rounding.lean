import Barrage.Proofs.Number.Finite
import Mathlib.Algebra.Ring.Nat

/-!
# Rounding to finite numbers

A result is rounded to 53 binary digits and then packed into 64 bits.  It stays
finite if its last digit is worth at most `2 ^ 971`, and it does so if it is below
`2 ^ 1023` before it is rounded.  So quotients by numbers of some size, and natural
numbers of some size, are finite.  A product may be too large, but it is then an
infinity.
-/

namespace Barrage.Number

open Float.Model

namespace Unpacked

/-! ## Binary digits -/

theorem log2_le_of_lt
    {number places : Nat}
    (small : number < 2 ^ (places + 1)) :
    number.log2 ≤ places := by
  rcases Nat.eq_zero_or_pos number with rfl | positive
  · simp
  · exact Nat.le_of_lt_succ ((Nat.log2_lt (Nat.ne_of_gt positive)).mpr small)

theorem log2_shiftLeft_le (number places : Nat) : (number <<< places).log2 ≤ number.log2 + places := by
  refine log2_le_of_lt ?_
  rw [Nat.shiftLeft_eq, Nat.add_right_comm, Nat.pow_add]
  exact Nat.mul_lt_mul_of_pos_right Nat.lt_log2_self (Nat.two_pow_pos places)

theorem log2_mul_le (first second : Nat) : (first * second).log2 ≤ first.log2 + second.log2 + 1 := by
  refine log2_le_of_lt ?_
  rw [show first.log2 + second.log2 + 1 + 1 = first.log2 + 1 + (second.log2 + 1) by omega,
    Nat.pow_add]
  exact Nat.mul_lt_mul'' Nat.lt_log2_self Nat.lt_log2_self

theorem log2_div_le
    (number : Nat)
    {divisor : Nat}
    (positive : 0 < divisor) :
    (number / divisor).log2 ≤ number.log2 - divisor.log2 := by
  rcases Nat.lt_or_ge number divisor with small | large
  · rw [Nat.div_eq_of_lt small]
    simp
  · have size : divisor.log2 ≤ number.log2 :=
      (Nat.le_log2 (by omega)).mpr (Nat.le_trans (Nat.log2_self_le (by omega)) large)
    refine log2_le_of_lt ?_
    rw [Nat.div_lt_iff_lt_mul positive]
    refine Nat.lt_of_lt_of_le Nat.lt_log2_self
      (Nat.le_trans ?_ (Nat.mul_le_mul_left _ (Nat.log2_self_le (Nat.ne_of_gt positive))))
    rw [← Nat.pow_add]
    exact Nat.pow_le_pow_right (by decide) (by omega)

theorem log2_shift
    {number places : Nat}
    (positive : number ≠ 0)
    (enough : places ≤ number.log2) :
    (number / 2 ^ places).log2 = number.log2 - places := by
  have some : 2 ^ places ≤ number := (Nat.le_log2 positive).mp enough
  rw [Nat.log2_eq_iff (Nat.ne_of_gt (Nat.div_pos some (Nat.two_pow_pos places))),
    Nat.le_div_iff_mul_le (Nat.two_pow_pos places), Nat.div_lt_iff_lt_mul (Nat.two_pow_pos places),
    ← Nat.pow_add, ← Nat.pow_add, Nat.sub_add_cancel enough, Nat.add_right_comm,
    Nat.sub_add_cancel enough]
  exact ⟨Nat.log2_self_le positive, Nat.lt_log2_self⟩

/-! ## Rounding -/

/-- Zero, or a finite number whose last digit is worth at most a power of two. -/
def HasUnitAtMost (limit : Int) : UnpackedFloat → Prop
  | .zero _ => True
  | .finite _ _ exponent _ => exponent ≤ limit
  | _ => False

theorem mantissa_shift
    (extended : UnpackedFloat.ExtendedMantissa)
    (places : Nat) :
    (extended >>> places).mantissa = extended.mantissa / 2 ^ places := by
  induction places with
  | zero => simp [HShiftRight.hShiftRight, Nat.repeat]
  | succ places ih =>
      show (extended >>> places).mantissa / 2 = _
      rw [ih, Nat.div_div_eq_div_mul, Nat.pow_succ]

/-- What is left is counted up by one at most. -/
theorem roundedMantissa_bounds (extended : UnpackedFloat.ExtendedMantissa) :
    extended.mantissa ≤ extended.roundedMantissa ∧
      extended.roundedMantissa ≤ extended.mantissa + 1 := by
  obtain ⟨mantissa, roundBit, stickyBit⟩ := extended
  cases roundBit <;> cases stickyBit <;>
    simp only [UnpackedFloat.ExtendedMantissa.roundedMantissa,
      UnpackedFloat.ExtendedMantissa.accuracy, UnpackedFloat.Accuracy.roundToNearestEven] <;>
    omega

theorem log2_le_of_le_shift
    {mantissa rounded places : Nat}
    (atMost : rounded ≤ mantissa / 2 ^ places + 1) :
    rounded.log2 ≤ mantissa.log2 + 1 - places := by
  have quotient : mantissa / 2 ^ places < 2 ^ (mantissa.log2 + 1 - places) := by
    rw [Nat.div_lt_iff_lt_mul (Nat.two_pow_pos places), ← Nat.pow_add]
    refine Nat.lt_of_lt_of_le Nat.lt_log2_self (Nat.pow_le_pow_right (by decide) ?_)
    omega
  have positive := Nat.two_pow_pos (mantissa.log2 + 1 - places)
  refine log2_le_of_lt ?_
  rw [Nat.pow_succ]
  omega

theorem targetExponent_binary64 (total : Int) :
    Format.binary64.targetExponent total = max (total - 53) (-1074) :=
  rfl

section Shift

variable (mantissa : Nat) (exponent : Int) (accuracy : UnpackedFloat.Accuracy)

/-- The digits that are dropped so that a number has no more than its size allows. -/
def droppedPlaces : Nat :=
  (Format.binary64.targetExponent (totalExponent mantissa exponent) - exponent).toNat

theorem mantissa_shiftToTargetExponent :
    (UnpackedFloat.shiftToTargetExponent .binary64 mantissa exponent accuracy).1.mantissa =
      mantissa / 2 ^ droppedPlaces mantissa exponent := by
  have start :
      (UnpackedFloat.ExtendedMantissa.ofMantissaAndAccuracy mantissa accuracy).mantissa =
        mantissa := by
    cases accuracy with
    | exact => rfl
    | inexact relative => cases relative <;> rfl
  rw [UnpackedFloat.shiftToTargetExponent, UnpackedFloat.shiftToExponent]
  dsimp only
  rw [mantissa_shift, start]
  rfl

end Shift

/--
A number is rounded by dropping places, counting the rest up or not, and dropping
places again if there is one too many.
-/
theorem roundWithAccuracy_cases
    (mantissa : Nat)
    (exponent : Int)
    (sign : UnpackedFloat.Sign)
    (accuracy : UnpackedFloat.Accuracy) :
    ∃ rounded first last,
      first = droppedPlaces mantissa exponent ∧ last = droppedPlaces rounded (exponent + first) ∧
        mantissa / 2 ^ first ≤ rounded ∧ rounded ≤ mantissa / 2 ^ first + 1 ∧
          ((rounded / 2 ^ last = 0 ∧
              UnpackedFloat.roundWithAccuracy .binary64 sign mantissa exponent accuracy =
                .zero sign) ∨
            ∃ positive,
              UnpackedFloat.roundWithAccuracy .binary64 sign mantissa exponent accuracy =
                .finite sign (rounded / 2 ^ last) (exponent + first + last) positive) := by
  have bounds := roundedMantissa_bounds
    (UnpackedFloat.shiftToTargetExponent .binary64 mantissa exponent accuracy).1
  rw [mantissa_shiftToTargetExponent] at bounds
  refine ⟨_, _, _, rfl, rfl, bounds.1, bounds.2, ?_⟩
  rw [← mantissa_shiftToTargetExponent _ _ .exact]
  rcases Nat.eq_zero_or_pos
    (UnpackedFloat.shiftToTargetExponent .binary64
      (UnpackedFloat.shiftToTargetExponent .binary64 mantissa exponent
        accuracy).1.roundedMantissa
      (exponent + droppedPlaces mantissa exponent) .exact).1.mantissa with zero | positive
  · exact .inl ⟨zero, dif_pos zero⟩
  · exact .inr ⟨positive, dif_neg (Nat.ne_of_gt positive)⟩

section Round

variable
  {limit : Int}
  {mantissa : Nat}
  {exponent : Int}
  (tiny : -1021 ≤ limit)
  (below : totalExponent mantissa exponent ≤ limit)

include tiny below

/-- A number below a power of two is rounded to one with a small last digit. -/
theorem hasUnitAtMost_roundWithAccuracy
    (unit : exponent ≤ limit - 53)
    (sign : UnpackedFloat.Sign)
    (accuracy : UnpackedFloat.Accuracy) :
    HasUnitAtMost (limit - 52)
      (UnpackedFloat.roundWithAccuracy .binary64 sign mantissa exponent accuracy) := by
  obtain ⟨rounded, first, last, isFirst, isLast, -, atMost, ⟨-, isZero⟩ | ⟨positive, isRounded⟩⟩ :=
    roundWithAccuracy_cases mantissa exponent sign accuracy
  · rw [isZero]
    trivial
  · rw [isRounded]
    show exponent + first + last ≤ limit - 52
    have digits := log2_le_of_le_shift atMost
    simp only [droppedPlaces, targetExponent_binary64, totalExponent] at below isFirst isLast
    omega

theorem hasUnitAtMost_round (sign : UnpackedFloat.Sign) :
    HasUnitAtMost (limit - 52) (UnpackedFloat.round .binary64 sign mantissa exponent) := by
  rw [UnpackedFloat.round]
  dsimp only [UnpackedFloat.decreaseExponent]
  refine hasUnitAtMost_roundWithAccuracy tiny ?_ ?_ sign .exact
  · have digits := log2_shiftLeft_le mantissa
      (exponent - Format.binary64.targetExponent (totalExponent mantissa exponent)).toNat
    simp only [totalExponent] at below digits ⊢
    omega
  · rw [targetExponent_binary64]
    omega

end Round

/-! ## Rounding to all digits -/

section Normal

variable
  {mantissa : Nat}
  {exponent : Int}
  (digits : 52 ≤ mantissa.log2)
  (large : 2 ≤ totalExponent mantissa exponent)

include digits large

theorem droppedPlaces_eq : droppedPlaces mantissa exponent = mantissa.log2 - 52 := by
  simp only [droppedPlaces, targetExponent_binary64, totalExponent] at large ⊢
  omega

/-- What is left of a number after its superfluous digits are dropped has 53 digits. -/
theorem log2_shift_droppedPlaces : (mantissa / 2 ^ droppedPlaces mantissa exponent).log2 = 52 := by
  have positive : mantissa ≠ 0 := by
    rintro rfl
    rw [Nat.log2_zero] at digits
    omega
  rw [droppedPlaces_eq digits large, log2_shift positive (Nat.sub_le _ _)]
  omega

end Normal

/-- A finite number that is at least two and has 53 digits. -/
def isAtLeastTwo : UnpackedFloat → Bool
  | .finite _ mantissa exponent _ => mantissa.log2 == 52 && -51 ≤ exponent
  | _ => false

theorem isAtLeastTwo_finite_iff
    {sign : UnpackedFloat.Sign}
    {mantissa : Nat}
    {exponent : Int}
    {positive : 0 < mantissa} :
    isAtLeastTwo (.finite sign mantissa exponent positive) = true ↔
      mantissa.log2 = 52 ∧ -51 ≤ exponent := by
  show (mantissa.log2 == 52 && decide (-51 ≤ exponent)) = true ↔ _
  rw [Bool.and_eq_true, beq_iff_eq, decide_eq_true_eq]

theorem isAtLeastTwo_roundWithAccuracy
    {mantissa : Nat}
    {exponent : Int}
    (digits : 52 ≤ mantissa.log2)
    (large : 2 ≤ totalExponent mantissa exponent)
    (sign : UnpackedFloat.Sign)
    (accuracy : UnpackedFloat.Accuracy) :
    isAtLeastTwo
      (UnpackedFloat.roundWithAccuracy .binary64 sign mantissa exponent accuracy) = true := by
  obtain ⟨rounded, first, last, rfl, rfl, atLeast, -, result⟩ :=
    roundWithAccuracy_cases mantissa exponent sign accuracy
  have keptDigits := log2_shift_droppedPlaces digits large
  have dropped := droppedPlaces_eq digits large
  have keptPositive : mantissa / 2 ^ droppedPlaces mantissa exponent ≠ 0 := by
    intro zero
    rw [zero] at keptDigits
    cases keptDigits
  have roundedPositive : rounded ≠ 0 :=
    Nat.ne_of_gt (Nat.lt_of_lt_of_le (Nat.pos_of_ne_zero keptPositive) atLeast)
  have roundedDigits : 52 ≤ rounded.log2 := by
    rw [← keptDigits]
    exact (Nat.le_log2 roundedPositive).mpr (Nat.le_trans (Nat.log2_self_le keptPositive) atLeast)
  have roundedLarge : 2 ≤ totalExponent rounded (exponent + droppedPlaces mantissa exponent) := by
    simp only [totalExponent] at large ⊢
    omega
  have lastDigits := log2_shift_droppedPlaces roundedDigits roundedLarge
  rcases result with ⟨zero, -⟩ | ⟨positive, isRounded⟩
  · rw [zero] at lastDigits
    cases lastDigits
  · rw [isRounded, isAtLeastTwo_finite_iff]
    simp only [totalExponent] at large
    exact ⟨lastDigits, by omega⟩

/-! ## Packing -/

/-- A finite number as 64 bits hold it. -/
def IsHeld (limit : Int) : UnpackedFloat → Prop
  | .zero _ => True
  | .finite _ mantissa exponent _ => mantissa.log2 ≤ 52 ∧ exponent ≤ limit
  | _ => False

theorem IsHeld.isFinite
    {limit : Int}
    {value : UnpackedFloat}
    (held : IsHeld limit value) :
    value.isFinite = true := by
  cases value with
  | notANumber | infinity sign => exact held.elim
  | zero sign => rfl
  | finite sign mantissa exponent positive => rfl

section Unpack

variable
  {bits : BitVec Format.binary64.numBits}
  {limit : Int}

theorem isHeld_unpack
    (notAll : UnpackedFloat.unpackExponent bits ≠ -1#_)
    (small : ((UnpackedFloat.unpackExponent bits).toNat : Int) - 1075 ≤ limit)
    (tiny : -1074 ≤ limit) :
    IsHeld limit (UnpackedFloat.unpack .binary64 bits) := by
  have bias : ((Format.binary64.exponentBias : Nat) : Int) = 1023 := rfl
  have width : ((Format.binary64.mantissaBitsWithoutImplicit : Nat) : Int) = 52 := rfl
  delta UnpackedFloat.unpack
  dsimp only
  rw [if_neg notAll]
  rcases Decidable.em (UnpackedFloat.unpackExponent bits = 0#_) with zero | notZero
  · have field : (UnpackedFloat.unpackExponent bits).toNat = 0 := by
      rw [zero]
      rfl
    rw [if_pos zero]
    rcases Decidable.em (UnpackedFloat.unpackMantissa bits = 0#_) with noDigits | someDigits
    · rw [dif_pos noDigits]
      trivial
    · rw [dif_neg someDigits, field, bias, width]
      have digits := (UnpackedFloat.unpackMantissa bits).isLt
      exact ⟨log2_le_of_lt (Nat.lt_trans digits (by decide)), by omega⟩
  · rw [if_neg notZero, bias, width]
    exact ⟨log2_le_of_lt (1#1 ++ UnpackedFloat.unpackMantissa bits).isLt, by omega⟩

theorem isHeld_of_isFinite
    (finite : (UnpackedFloat.unpack .binary64 bits).isFinite = true) :
    IsHeld 971 (UnpackedFloat.unpack .binary64 bits) := by
  rcases Decidable.em (UnpackedFloat.unpackExponent bits = -1#_) with all | notAll
  · delta UnpackedFloat.unpack at finite
    dsimp only at finite
    rw [if_pos all] at finite
    split at finite <;> cases finite
  · have notLast : (UnpackedFloat.unpackExponent bits).toNat ≠ 2047 :=
      fun last => notAll (BitVec.eq_of_toNat_eq last)
    have field : (UnpackedFloat.unpackExponent bits).toNat < 2048 :=
      (UnpackedFloat.unpackExponent bits).isLt
    exact isHeld_unpack notAll (by omega) (by decide)

/-- The digits of a packed number begin with a one that is not written. -/
theorem log2_one_append (digits : BitVec Format.binary64.mantissaBitsWithoutImplicit) :
    (1#1 ++ digits).toNat.log2 = 52 := by
  have atLeast : 2 ^ 52 ≤ (1#1 ++ digits).toNat := by
    rw [BitVec.toNat_append]
    exact Nat.left_le_or
  have positive := Nat.lt_of_lt_of_le (Nat.two_pow_pos 52) atLeast
  exact (Nat.log2_eq_iff (Nat.ne_of_gt positive)).mpr ⟨atLeast, (1#1 ++ digits).isLt⟩

theorem isAtLeastTwo_unpack
    (notAll : UnpackedFloat.unpackExponent bits ≠ -1#_)
    (large : 1024 ≤ (UnpackedFloat.unpackExponent bits).toNat) :
    isAtLeastTwo (UnpackedFloat.unpack .binary64 bits) = true := by
  have bias : ((Format.binary64.exponentBias : Nat) : Int) = 1023 := rfl
  have width : ((Format.binary64.mantissaBitsWithoutImplicit : Nat) : Int) = 52 := rfl
  have notZero : UnpackedFloat.unpackExponent bits ≠ 0#_ := by
    intro zero
    rw [zero] at large
    cases large
  delta UnpackedFloat.unpack
  dsimp only
  rw [if_neg notAll, if_neg notZero, isAtLeastTwo_finite_iff, bias, width]
  exact ⟨log2_one_append _, by omega⟩

end Unpack

section Pack

variable
  {sign : UnpackedFloat.Sign}
  {mantissa : Nat}
  {exponent : Int}
  {positive : 0 < mantissa}

/-- The number by which an exponent is packed.  A number without all digits has zero in its place. -/
def exponentField
    (mantissa : Nat)
    (exponent : Int) : Nat :=
  if mantissa.log2 = 52 then (exponent + 1075).toNat else 0

theorem pack_finite_eq :
    UnpackedFloat.pack .binary64 (.finite sign mantissa exponent positive) =
      if 2048 ≤ (exponent + 1023 + 52).toNat + 1 then UnpackedFloat.packedInfinity .binary64 sign
      else if mantissa.log2 + 1 = 53 then
        UnpackedFloat.packComponents .binary64 sign
          (BitVec.ofNat _ (exponent + 1023 + 52).toNat) (BitVec.ofNat _ mantissa)
      else
        UnpackedFloat.packComponents .binary64 sign (BitVec.ofNat _ 0) (BitVec.ofNat _ mantissa) :=
  rfl

theorem pack_finite
    (small : exponent ≤ 971) :
    UnpackedFloat.pack .binary64 (.finite sign mantissa exponent positive) =
      UnpackedFloat.packComponents .binary64 sign
        (BitVec.ofNat _ (exponentField mantissa exponent)) (BitVec.ofNat _ mantissa) := by
  rw [pack_finite_eq, if_neg (by omega), Int.add_assoc, exponentField]
  split
  next allDigits => rw [if_pos (Nat.succ.inj allDigits)]; rfl
  next notAll => rw [if_neg (fun digits => notAll (congrArg Nat.succ digits))]

theorem pack_finite_of_lt
    (large : 971 < exponent) :
    UnpackedFloat.pack .binary64 (.finite sign mantissa exponent positive) =
      UnpackedFloat.packedInfinity .binary64 sign := by
  rw [pack_finite_eq, if_pos (by omega)]

theorem toNat_exponentField
    (small : exponent ≤ 971) :
    (BitVec.ofNat Format.binary64.exponentBits (exponentField mantissa exponent)).toNat =
      exponentField mantissa exponent := by
  refine Nat.mod_eq_of_lt ?_
  show exponentField mantissa exponent < 2048
  rw [exponentField]
  split <;> omega

theorem exponentField_ne_all
    (small : exponent ≤ 971) :
    BitVec.ofNat Format.binary64.exponentBits (exponentField mantissa exponent) ≠ -1#_ := by
  intro all
  have all := congrArg BitVec.toNat all
  rw [toNat_exponentField small, exponentField] at all
  have all : (if mantissa.log2 = 52 then (exponent + 1075).toNat else 0) = 2047 := all
  split at all <;> omega

end Pack

section Pack

variable {value : UnpackedFloat}

/-- A number with a small last digit is held when it is packed. -/
theorem HasUnitAtMost.isHeld_pack
    {limit : Int}
    (unit : HasUnitAtMost limit value)
    (tiny : -1074 ≤ limit)
    (small : limit ≤ 971) :
    IsHeld limit (Float.Model.pack value).unpack := by
  cases value with
  | notANumber | infinity sign => exact unit.elim
  | zero sign => cases sign <;> exact trivial
  | finite sign mantissa exponent positive =>
      have unit : exponent ≤ limit := unit
      have small : exponent ≤ 971 := Int.le_trans unit small
      show IsHeld limit (UnpackedFloat.unpack .binary64 (UnpackedFloat.pack .binary64 _))
      rw [pack_finite small]
      refine isHeld_unpack ?_ ?_ tiny
      · rw [UnpackedFloat.unpackExponent_packComponents]
        exact exponentField_ne_all small
      · rw [UnpackedFloat.unpackExponent_packComponents, toNat_exponentField small, exponentField]
        split <;> omega

theorem HasUnitAtMost.isFinite_pack
    (unit : HasUnitAtMost 971 value) :
    (Float.Model.pack value).unpack.isFinite = true :=
  (unit.isHeld_pack (by decide) (by decide)).isFinite

/-- A finite number is packed as such or as an infinity. -/
theorem isFinite_or_isInf_pack
    (finite : value.isFinite = true) :
    (Float.Model.pack value).unpack.isFinite = true ∨
      (Float.Model.pack value).unpack.isInf = true := by
  cases value with
  | notANumber | infinity sign => cases finite
  | zero sign => cases sign <;> exact .inl rfl
  | finite sign mantissa exponent positive =>
      rcases Int.lt_or_le 971 exponent with large | small
      · right
        show (UnpackedFloat.unpack .binary64 (UnpackedFloat.pack .binary64 _)).isInf = true
        rw [pack_finite_of_lt large]
        cases sign <;> rfl
      · left
        have unit : HasUnitAtMost 971 (.finite sign mantissa exponent positive) := small
        exact unit.isFinite_pack

theorem isAtLeastTwo_pack
    (large : isAtLeastTwo value = true)
    (unit : HasUnitAtMost 971 value) :
    isAtLeastTwo (Float.Model.pack value).unpack = true := by
  cases value with
  | notANumber | infinity sign | zero sign => cases large
  | finite sign mantissa exponent positive =>
      have small : exponent ≤ 971 := unit
      obtain ⟨digits, large⟩ := isAtLeastTwo_finite_iff.mp large
      show isAtLeastTwo (UnpackedFloat.unpack .binary64 (UnpackedFloat.pack .binary64 _)) = true
      rw [pack_finite small]
      refine isAtLeastTwo_unpack ?_ ?_
      · rw [UnpackedFloat.unpackExponent_packComponents]
        exact exponentField_ne_all small
      · rw [UnpackedFloat.unpackExponent_packComponents, toNat_exponentField small, exponentField,
          if_pos digits]
        omega

end Pack

/-! ## Arithmetic -/

section Arithmetic

variable {first second : UnpackedFloat}

theorem hasUnitAtMost_mul
    {firstLimit secondLimit : Int}
    (firstHeld : IsHeld firstLimit first)
    (secondHeld : IsHeld secondLimit second)
    (tiny : -1127 ≤ firstLimit + secondLimit) :
    HasUnitAtMost (firstLimit + secondLimit + 54) (UnpackedFloat.mul .binary64 first second) := by
  cases first with
  | notANumber | infinity sign => exact firstHeld.elim
  | zero sign =>
      cases second with
      | notANumber | infinity sign => exact secondHeld.elim
      | zero other | finite other mantissa exponent positive => exact trivial
  | finite sign mantissa exponent positive =>
      cases second with
      | notANumber | infinity sign => exact secondHeld.elim
      | zero other => exact trivial
      | finite other otherMantissa otherExponent otherPositive =>
          have digits := log2_mul_le mantissa otherMantissa
          obtain ⟨firstDigits, firstUnit⟩ := firstHeld
          obtain ⟨secondDigits, secondUnit⟩ := secondHeld
          have below :
              totalExponent (mantissa * otherMantissa) (exponent + otherExponent) ≤
                firstLimit + secondLimit + 106 := by
            simp only [totalExponent]
            omega
          have rounded :=
            hasUnitAtMost_roundWithAccuracy (by omega) below (by omega) (sign * other) .exact
          rwa [Int.add_sub_assoc] at rounded

theorem hasUnitAtMost_neg
    {limit : Int}
    (held : IsHeld limit first) :
    HasUnitAtMost limit first.neg := by
  cases first with
  | notANumber | infinity sign => exact held.elim
  | zero sign => exact trivial
  | finite sign mantissa exponent positive => exact held.2

theorem isFinite_of_isAtLeastTwo
    (large : isAtLeastTwo first = true) :
    first.isFinite = true := by
  cases first with
  | notANumber | infinity sign | zero sign => cases large
  | finite sign mantissa exponent positive => rfl

theorem hasUnitAtMost_div
    (held : IsHeld 971 first)
    (large : isAtLeastTwo second = true) :
    HasUnitAtMost 971 (UnpackedFloat.div .binary64 first second) := by
  cases second with
  | notANumber | infinity sign | zero sign => cases large
  | finite other divisor divisorExponent divisorPositive =>
      cases first with
      | notANumber | infinity sign => exact held.elim
      | zero sign => exact trivial
      | finite sign mantissa exponent positive =>
          obtain ⟨digits, unit⟩ := held
          obtain ⟨divisorDigits, large⟩ := isAtLeastTwo_finite_iff.mp large
          show HasUnitAtMost 971
            (UnpackedFloat.roundWithAccuracy .binary64 (sign / other)
              (UnpackedFloat.divCore .binary64 mantissa exponent divisor divisorExponent).1
              (UnpackedFloat.divCore .binary64 mantissa exponent divisor divisorExponent).2.1
              (UnpackedFloat.divCore .binary64 mantissa exponent divisor divisorExponent).2.2)
          rw [UnpackedFloat.divCore]
          dsimp only
          generalize isTarget :
            min (exponent - divisorExponent)
              (Format.binary64.targetExponent
                (totalExponent mantissa exponent - totalExponent divisor divisorExponent)) =
              target
          rw [targetExponent_binary64] at isTarget
          have divided := log2_div_le
            (mantissa <<< (exponent - divisorExponent - target).toNat) divisorPositive
          rw [divisorDigits] at divided
          have shifted := log2_shiftLeft_le mantissa (exponent - divisorExponent - target).toNat
          simp only [totalExponent, divisorDigits] at isTarget
          refine hasUnitAtMost_roundWithAccuracy (by decide : (-1021 : Int) ≤ 1023) ?_ ?_ _ _
          · simp only [totalExponent]
            omega
          · omega

/-- The product of finite numbers is a number, but it may be packed as an infinity. -/
theorem isFinite_pack_mul
    (firstFinite : first.isFinite = true)
    (secondFinite : second.isFinite = true)
    (notInfinite :
      (Float.Model.pack (UnpackedFloat.mul .binary64 first second)).unpack.isInf = false) :
    (Float.Model.pack (UnpackedFloat.mul .binary64 first second)).unpack.isFinite = true := by
  have finite : (UnpackedFloat.mul .binary64 first second).isFinite = true := by
    cases first with
    | notANumber | infinity sign => cases firstFinite
    | zero sign =>
        cases second with
        | notANumber | infinity sign => cases secondFinite
        | zero other | finite other mantissa exponent positive => rfl
    | finite sign mantissa exponent positive =>
        cases second with
        | notANumber | infinity sign => cases secondFinite
        | zero other => rfl
        | finite other otherMantissa otherExponent otherPositive =>
            show (UnpackedFloat.roundWithAccuracy .binary64 (sign * other)
              (mantissa * otherMantissa) (exponent + otherExponent) .exact).isFinite = true
            obtain ⟨_, _, _, -, -, -, -, ⟨-, isZero⟩ | ⟨positive, isRounded⟩⟩ :=
              roundWithAccuracy_cases (mantissa * otherMantissa) (exponent + otherExponent)
                (sign * other) .exact
            · rw [isZero]
              rfl
            · rw [isRounded]
              rfl
  rcases isFinite_or_isInf_pack finite with finite | infinite
  · exact finite
  · rw [notInfinite] at infinite
    cases infinite

/-- A natural number of 64 bits has at most 64 binary digits. -/
theorem totalExponent_le_of_lt
    {number : Nat}
    (small : number < 2 ^ 64) :
    totalExponent number 0 ≤ 64 := by
  have digits := log2_le_of_lt (show number < 2 ^ (63 + 1) from small)
  simp only [totalExponent]
  omega

theorem hasUnitAtMost_ofNat
    {number : Nat}
    (small : number < 2 ^ 64) :
    HasUnitAtMost 12 (UnpackedFloat.ofNat .binary64 number) := by
  have rounded (number : Nat) (small : number < 2 ^ 64) (sign : UnpackedFloat.Sign) :
      HasUnitAtMost 12 (UnpackedFloat.round .binary64 sign number 0) :=
    hasUnitAtMost_round (by decide : (-1021 : Int) ≤ 64) (totalExponent_le_of_lt small) sign
  rw [UnpackedFloat.ofNat, UnpackedFloat.ofInt, UnpackedFloat.normalize]
  split
  next => exact rounded _ (by omega) _
  next => exact trivial
  next => exact rounded _ (by omega) _

section Scientific

variable {number power : Nat}

theorem ofScientific_eq_roundWithAccuracy
    (positive : 0 < number)
    (small : power ≤ 2048) :
    UnpackedFloat.ofScientific .binary64 number power =
      UnpackedFloat.roundWithAccuracy .binary64 .positive (number <<< 53 * 10 ^ power) (-53)
        .exact := by
  have notHuge : ¬ (power : Int) > 2 ^ Format.binary64.exponentBits := by
    show ¬ (power : Int) > 2048
    omega
  have notTiny : ¬ (power : Int) < -((2 : Int) ^ Format.binary64.exponentBits + number.log2) := by
    show ¬ (power : Int) < -(2048 + number.log2)
    omega
  rw [UnpackedFloat.ofScientific, dif_neg (Nat.ne_of_gt positive), if_neg notHuge,
    if_neg notTiny, if_pos (Int.natCast_nonneg power)]
  rfl

theorem hasUnitAtMost_ofScientific
    (small : number < 2 ^ 64) :
    HasUnitAtMost 12 (UnpackedFloat.ofScientific .binary64 number (0 : Nat)) := by
  rcases Nat.eq_zero_or_pos number with rfl | positive
  · exact trivial
  · rw [ofScientific_eq_roundWithAccuracy positive (Nat.zero_le _), Nat.pow_zero, Nat.mul_one]
    have digits := log2_shiftLeft_le number 53
    have total := totalExponent_le_of_lt small
    refine hasUnitAtMost_roundWithAccuracy (by decide : (-1021 : Int) ≤ 64) ?_ (by decide) _ _
    simp only [totalExponent] at total ⊢
    omega

/-- A power of ten is at least two, and no infinity if it is not too large. -/
theorem isAtLeastTwo_ofScientific_one
    (positive : 0 < power)
    (small : power ≤ 307) :
    isAtLeastTwo
      (Float.Model.pack (UnpackedFloat.ofScientific .binary64 1 power)).unpack = true := by
  have least : 10 ^ 1 ≤ 10 ^ power := Nat.pow_le_pow_right (by decide) positive
  have most : 10 ^ power < 2 ^ (1022 + 1) :=
    Nat.lt_of_le_of_lt (Nat.pow_le_pow_right (by decide) small)
      (by decide +kernel : 10 ^ 307 < 2 ^ (1022 + 1))
  have shifted : 1 <<< 53 * 10 ^ power = (10 ^ power) <<< 53 := by
    rw [Nat.one_shiftLeft, Nat.shiftLeft_eq, Nat.mul_comm]
  have atLeast : 2 ^ 54 ≤ (10 ^ power) <<< 53 := by
    rw [Nat.shiftLeft_eq]
    exact Nat.le_trans (by decide) (Nat.mul_le_mul_right (2 ^ 53) least)
  have low := (Nat.le_log2 (by omega)).mpr atLeast
  have high := log2_shiftLeft_le (10 ^ power) 53
  have digits := log2_le_of_lt most
  rw [ofScientific_eq_roundWithAccuracy (by decide) (by omega), shifted]
  generalize (10 ^ power) <<< 53 = mantissa at low high ⊢
  refine isAtLeastTwo_pack ?_ ?_
  · refine isAtLeastTwo_roundWithAccuracy (by omega) ?_ _ _
    simp only [totalExponent]
    omega
  · refine hasUnitAtMost_roundWithAccuracy (by decide : (-1021 : Int) ≤ 1023) ?_ (by decide) _ _
    simp only [totalExponent]
    omega

end Scientific

end Arithmetic

end Unpacked

/-! ## Numbers -/

theorem isFinite_neg
    {value : Float}
    (finite : value.isFinite = true) :
    (-value).isFinite = true :=
  (Unpacked.hasUnitAtMost_neg (Unpacked.isHeld_of_isFinite finite)).isFinite_pack

theorem isFinite_div
    {value divisor : Float}
    (finite : value.isFinite = true)
    (large : Unpacked.isAtLeastTwo divisor.toModel.unpack = true) :
    (value / divisor).isFinite = true :=
  (Unpacked.hasUnitAtMost_div (Unpacked.isHeld_of_isFinite finite) large).isFinite_pack

/-- A power of ten that 64 bits can hold is at least two. -/
theorem isAtLeastTwo_powerOfTen
    {power : Nat}
    (positive : 0 < power)
    (small : power ≤ 308) :
    Unpacked.isAtLeastTwo (Float.ofScientific 1 false power).toModel.unpack = true := by
  rcases Nat.lt_or_ge 22 power with large | little
  · rcases Nat.lt_or_eq_of_le small with small | rfl
    · have slow : ¬ (1 < 2 ^ 53 ∧ power ≤ 22) := fun fast => Nat.not_le.mpr large fast.2
      rw [Float.ofScientific, dif_neg slow]
      exact Unpacked.isAtLeastTwo_ofScientific_one positive (Nat.le_of_lt_succ small)
    · decide +kernel
  · have tabulated :
        ∀ power < 23, 0 < power →
          Unpacked.isAtLeastTwo (Float.ofScientific 1 false power).toModel.unpack = true := by
      decide +kernel
    exact tabulated power (Nat.lt_succ_of_le little) positive

theorem isFinite_mul
    {first second : Float}
    (firstFinite : first.isFinite = true)
    (secondFinite : second.isFinite = true)
    (notInfinite : (first * second).isInf = false) :
    (first * second).isFinite = true :=
  Unpacked.isFinite_pack_mul firstFinite secondFinite notInfinite

theorem isFinite_ofNat
    {number : Nat}
    (small : number < 2 ^ 64) :
    (Float.ofNat number).isFinite = true := by
  show (Float.ofScientific number false 0).isFinite = true
  rw [Float.ofScientific]
  split
  next fast =>
    have kept : number.toUInt64.toNat = number := UInt64.toNat_ofNat_of_lt' small
    have number : Unpacked.HasUnitAtMost 12 (UnpackedFloat.ofUInt64 .binary64 number.toUInt64) := by
      rw [UnpackedFloat.ofUInt64, kept]
      exact Unpacked.hasUnitAtMost_ofNat small
    have isOne : (1 : Float).toModel.unpack = .finite .positive (2 ^ 52) (-52) (by decide) := rfl
    have one : Unpacked.IsHeld (-52) (1 : Float).toModel.unpack := by
      rw [isOne]
      exact ⟨by decide, by decide⟩
    have product :=
      Unpacked.hasUnitAtMost_mul (number.isHeld_pack (by decide) (by decide)) one (by decide)
    exact (product.isHeld_pack (by decide) (by decide)).isFinite
  next =>
    have unit := Unpacked.hasUnitAtMost_ofScientific small
    exact (unit.isHeld_pack (by decide) (by decide)).isFinite

theorem isFinite_ofInt
    {number : Int}
    (small : number.natAbs < 2 ^ 64) :
    (Float.ofInt number).isFinite = true := by
  cases number with
  | ofNat size => exact isFinite_ofNat small
  | negSucc size => exact isFinite_neg (isFinite_ofNat small)

end Barrage.Number
