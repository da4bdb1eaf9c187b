/-!
# The exact value of a binary number

A binary number of 64 bits is not a number, an infinity, or a finite number:
a significand below 2 ^ 53 times a power of two.  `Binary.ofFloat` takes it
apart into natural numbers and integers, on which everything that has to be
exact is computed.
-/

namespace Barrage.Number

/-- A binary number, taken apart. -/
inductive Binary
  | notANumber
  | infinite (negative : Bool)
  /-- The number `significand * 2 ^ exponent`, with a sign. -/
  | finite (negative : Bool) (significand : Nat) (exponent : Int)
deriving DecidableEq, Repr

namespace Binary

/-- The leading bit of a significand, which is not written unless the number is tiny. -/
def hiddenBit : Nat := 0x10000000000000

/-- Take apart a word of 64 bits: one for the sign, 11 for the exponent, 52 for the fraction. -/
def ofBits (bits : Nat) : Binary :=
  let negative := 0x8000000000000000 ≤ bits
  let exponentField : Nat := bits / hiddenBit % 2048
  let fraction := bits % hiddenBit
  if exponentField = 2047 then
    if fraction = 0 then infinite negative else notANumber
  else if exponentField = 0 then finite negative fraction (-1074)
  else finite negative (hiddenBit + fraction) ((exponentField : Int) - 1075)

/-- Take apart a binary number. -/
def ofFloat (value : Float) : Binary :=
  ofBits value.toBits.toNat

end Binary

/-- The power of two with an exponent between -1074 and 1023. -/
def powerOfTwo (exponent : Int) : Float :=
  if -1022 ≤ exponent then
    Float.ofBits ((exponent + 1023).toNat * Binary.hiddenBit).toUInt64
  else Float.ofBits (Nat.pow 2 (exponent + 1074).toNat).toUInt64

/--
The integer that a binary number is, when it is one.  Numbers of size
2 ^ 63 and more are not looked at.
-/
def wholeNumber? (value : Float) : Option Int :=
  match Binary.ofFloat value with
  | .finite negative significand exponent =>
      let magnitude :=
        if 0 ≤ exponent then some (significand * Nat.pow 2 exponent.toNat)
        else
          let unit := Nat.pow 2 (-exponent).toNat
          if significand % unit = 0 then some (significand / unit) else none
      (magnitude.filter (· < 0x8000000000000000)).map fun (size : Nat) =>
        if negative then -(size : Int) else size
  | _ => none

/--
The remainder of a division by a positive whole number that leaves the sign
of the dividend, computed exactly.  It is not a number when the dividend is
not finite.
-/
def remainder
    (value : Float)
    (divisor : Nat) : Float :=
  match Binary.ofFloat value with
  | .finite negative significand exponent =>
      let rest :=
        if 0 ≤ exponent then Float.ofNat (significand * Nat.pow 2 exponent.toNat % divisor)
        else
          let unit := Nat.pow 2 (-exponent).toNat
          Float.ofNat (significand % (divisor * unit)) * powerOfTwo exponent
      if negative then -rest else rest
  | _ => 0 / 0

/-- The quotient of two natural numbers, rounded to the nearest one, a half to the even one. -/
def roundedQuotient
    (numerator denominator : Nat) : Nat :=
  let quotient := numerator / denominator
  let twice := 2 * (numerator % denominator)
  if twice < denominator then quotient
  else if denominator < twice then quotient + 1
  else quotient + quotient % 2

end Barrage.Number
