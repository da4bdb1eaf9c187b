import Barrage.Number.Shortest

/-!
# Written binary numbers

A binary number is written with the fewest digits that are read back as the
same number.  Two forms are in use.

* In messages a number is always written out, without an exponent.
* In exchanged data a number has a point or an exponent, so that it can be
  told from an integer.  Between 1e-5 and 1e16 it is written out, outside of
  this range with an exponent that has a sign.  What is not finite has no
  written form.
-/

namespace Barrage.Number

/-- A number of zeros. -/
def zeros (count : Nat) : List Char :=
  List.replicate count '0'

/-- The digits before the point and after it. -/
def Decimal.parts (decimal : Decimal) : List Char × List Char :=
  let digits := Nat.toDigits 10 decimal.digits
  if 0 ≤ decimal.exponent then (digits ++ zeros decimal.exponent.toNat, [])
  else
    let places := (-decimal.exponent).toNat
    if places < digits.length then
      (digits.take (digits.length - places), digits.drop (digits.length - places))
    else (['0'], zeros (places - digits.length) ++ digits)

/-- The exponent of the leading digit. -/
def Decimal.leadingExponent (decimal : Decimal) : Int :=
  decimal.exponent + (Nat.toDigits 10 decimal.digits).length - 1

/-- A sign in front of a number below zero. -/
def signed
    (negative : Bool)
    (magnitude : List Char) : List Char :=
  if negative then '-' :: magnitude else magnitude

/-- A decimal written out, with a point only where a fraction follows. -/
def Decimal.writtenOut (decimal : Decimal) : List Char :=
  let (whole, fraction) := decimal.parts
  if fraction.isEmpty then whole else whole ++ '.' :: fraction

/-- A decimal written out, with at least one digit after the point. -/
def Decimal.withPoint (decimal : Decimal) : List Char :=
  let (whole, fraction) := decimal.parts
  whole ++ '.' :: (if fraction.isEmpty then ['0'] else fraction)

/-- A decimal written with one digit before the point and an exponent with a sign. -/
def Decimal.withExponent (decimal : Decimal) : List Char :=
  let exponent := decimal.leadingExponent
  let mark := if exponent < 0 then ['e', '-'] else ['e', '+']
  let mantissa :=
    match Nat.toDigits 10 decimal.digits with
    | first :: second :: rest => first :: '.' :: second :: rest
    | digits => digits
  mantissa ++ mark ++ Nat.toDigits 10 exponent.natAbs

/-- A number as messages show it. -/
def shown (value : Float) : String :=
  match Binary.ofFloat value with
  | .notANumber => "NaN"
  | .infinite negative => String.ofList (signed negative ['i', 'n', 'f'])
  | .finite negative significand exponent =>
      let magnitude :=
        if significand = 0 then ['0']
        else (Decimal.shortest .up significand exponent).writtenOut
      String.ofList (signed negative magnitude)

/-- A finite number as exchanged data holds it. -/
def exchanged? (value : Float) : Option (List Char) :=
  match Binary.ofFloat value with
  | .finite negative significand exponent =>
      let magnitude :=
        if significand = 0 then ['0', '.', '0']
        else
          let decimal := Decimal.shortest .toEven significand exponent
          let leading := decimal.leadingExponent
          if -5 ≤ leading ∧ leading < 16 then decimal.withPoint else decimal.withExponent
      some (signed negative magnitude)
  | _ => none

end Barrage.Number
