/-!
# Finite numbers

Arithmetic answers an infinity or no number at all where it overflows or is
given such a value.  So a sum or a difference that is finite has finite parts,
and whatever lies between two finite numbers is finite.  The bounds matter: an
infinite bound has an infinity next to it.

A number is read in three steps, unpacked, calculated with and packed again.
Each fact is shown for unpacked numbers first.
-/

namespace Barrage.Number

open Float.Model

/-! ## Unpacked numbers -/

namespace Unpacked

/-- A number that packing makes finite was finite before. -/
theorem isFinite_of_pack
    {value : UnpackedFloat}
    (finite : (Float.Model.pack value).unpack.isFinite = true) :
    value.isFinite = true := by
  cases value with
  | notANumber => exact finite
  | infinity sign => cases sign <;> exact finite
  | zero sign => rfl
  | finite sign mantissa exponent positive => rfl

theorem isFinite_of_add
    {first second : UnpackedFloat}
    (finite : (UnpackedFloat.add .binary64 first second).isFinite = true) :
    second.isFinite = true := by
  cases second with
  | notANumber => cases first <;> exact finite
  | infinity sign =>
      cases first with
      | notANumber => exact finite
      | infinity other => cases sign <;> cases other <;> exact finite
      | zero other => exact finite
      | finite other mantissa exponent positive => exact finite
  | zero sign => rfl
  | finite sign mantissa exponent positive => rfl

theorem isFinite_of_sub
    {first second : UnpackedFloat}
    (finite : (UnpackedFloat.sub .binary64 first second).isFinite = true) :
    second.isFinite = true := by
  cases second with
  | notANumber => cases first <;> exact finite
  | infinity sign =>
      cases first with
      | notANumber => exact finite
      | infinity other => cases sign <;> cases other <;> exact finite
      | zero other => exact finite
      | finite other mantissa exponent positive => exact finite
  | zero sign => rfl
  | finite sign mantissa exponent positive => rfl

theorem isFinite_of_le_of_le
    {low value high : UnpackedFloat}
    (lowFinite : low.isFinite = true)
    (highFinite : high.isFinite = true)
    (above : low.le value = true)
    (below : value.le high = true) :
    value.isFinite = true := by
  cases value with
  | notANumber => cases low <;> exact above
  | infinity sign =>
      cases sign with
      | positive =>
          cases high with
          | notANumber => exact highFinite
          | infinity other => exact highFinite
          | zero other => exact below
          | finite other mantissa exponent positive => exact below
      | negative =>
          cases low with
          | notANumber => exact lowFinite
          | infinity other => exact lowFinite
          | zero other => exact above
          | finite other mantissa exponent positive => exact above
  | zero sign => rfl
  | finite sign mantissa exponent positive => rfl

end Unpacked

/-! ## Numbers -/

theorem isFinite_of_add
    {first second : Float}
    (finite : (first + second).isFinite = true) :
    second.isFinite = true :=
  Unpacked.isFinite_of_add (Unpacked.isFinite_of_pack finite)

theorem isFinite_of_sub
    {first second : Float}
    (finite : (first - second).isFinite = true) :
    second.isFinite = true :=
  Unpacked.isFinite_of_sub (Unpacked.isFinite_of_pack finite)

/-- Whatever lies between finite numbers is finite. -/
theorem isFinite_of_le_of_le
    {low value high : Float}
    (lowFinite : low.isFinite = true)
    (highFinite : high.isFinite = true)
    (above : low ≤ value)
    (below : value ≤ high) :
    value.isFinite = true :=
  Unpacked.isFinite_of_le_of_le lowFinite highFinite (of_decide_eq_true above)
    (of_decide_eq_true below)

end Barrage.Number
