import Barrage.Number.Binary

/-!
# The shortest decimal for a binary number

A binary number is the nearest one to every decimal in an interval around it.
The ends belong to the interval when the significand is even.  Of the
decimals in the interval, `Decimal.shortest` takes one with the fewest
digits, and of those the one nearest to the number.

The decimals with a fixed last place form a grid.  If a point of a grid lies
in the interval, so does one of the two points of the grid next to the
number.  So it is enough to look at these two, on coarser grids first.
-/

namespace Barrage.Number

/-- Which of two decimals to take when both are equally near. -/
inductive Tie
  /-- The larger one. -/
  | up
  /-- The one with an even last digit. -/
  | toEven
deriving DecidableEq, Repr

/-- The number `digits * 10 ^ exponent`. -/
structure Decimal where
  digits : Nat
  exponent : Int
deriving DecidableEq, Repr

/-- A positive number between two bounds, all with one denominator. -/
structure Interval where
  lower : Nat
  middle : Nat
  upper : Nat
  denominator : Nat
  /-- Whether the bounds belong to the interval. -/
  closed : Bool
deriving DecidableEq, Repr

namespace Interval

/-- The numbers that have `significand * 2 ^ exponent` as their nearest binary number. -/
def around
    (significand : Nat)
    (exponent : Int) : Interval :=
  let narrowBelow := significand = Binary.hiddenBit ∧ -1074 < exponent
  let quarter := exponent - 2
  let factor := if 0 ≤ quarter then Nat.pow 2 quarter.toNat else 1
  { lower := (if narrowBelow then 4 * significand - 1 else 4 * significand - 2) * factor
    middle := 4 * significand * factor
    upper := (4 * significand + 2) * factor
    denominator := if 0 ≤ quarter then 1 else Nat.pow 2 (-quarter).toNat
    closed := significand % 2 = 0 }

/-- The interval with all its numbers divided by a power of ten. -/
def divideByPower
    (interval : Interval)
    (exponent : Int) : Interval :=
  let numerator := Nat.pow 10 (-exponent).toNat
  { interval with
    lower := interval.lower * numerator
    middle := interval.middle * numerator
    upper := interval.upper * numerator
    denominator := interval.denominator * Nat.pow 10 exponent.toNat }

/-- Whether a natural number lies in the interval. -/
def holds
    (interval : Interval)
    (number : Nat) : Bool :=
  let scaled := number * interval.denominator
  if interval.closed then interval.lower ≤ scaled && scaled ≤ interval.upper
  else interval.lower < scaled && scaled < interval.upper

/-- The natural number nearest to the middle, if one lies in the interval. -/
def nearest?
    (interval : Interval)
    (tie : Tie) : Option Nat :=
  let below := interval.middle / interval.denominator
  let above := below + 1
  match interval.holds below, interval.holds above with
  | false, false => none
  | true, false => some below
  | false, true => some above
  | true, true =>
      let twice := 2 * (interval.middle % interval.denominator)
      if twice < interval.denominator then some below
      else if interval.denominator < twice then some above
      else
        match tie with
        | .up => some above
        | .toEven => if below % 2 = 0 then some below else some above

/-- The exponent of the leading decimal digit of the middle. -/
def leadingExponent (interval : Interval) : Int :=
  let whole := interval.middle / interval.denominator
  if 0 < whole then (Nat.toDigits 10 whole).length - 1
  else
    let inverse := (interval.denominator + interval.middle - 1) / interval.middle
    Int.negOfNat (Nat.toDigits 10 (inverse - 1)).length

end Interval

namespace Decimal

/-- The same number with no zero at the end of its digits. -/
def normalize : Nat → Decimal → Decimal
  | 0, decimal => decimal
  | fuel + 1, decimal =>
      if decimal.digits % 10 = 0 then normalize fuel ⟨decimal.digits / 10, decimal.exponent + 1⟩
      else decimal

/--
The shortest decimal for the positive binary number
`significand * 2 ^ exponent`.  Seventeen digits always suffice.
-/
def shortest
    (tie : Tie)
    (significand : Nat)
    (exponent : Int) : Decimal :=
  let interval := Interval.around significand exponent
  let leading := interval.leadingExponent
  let found := (List.range 17).findSome? fun extra =>
    let place := leading - (extra : Nat)
    ((interval.divideByPower place).nearest? tie).map fun digits => Decimal.mk digits place
  normalize 20 (found.getD ⟨0, 0⟩)

end Decimal

end Barrage.Number
