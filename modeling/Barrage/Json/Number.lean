import Barrage.Number.Numeral

/-!
# Numbers in JSON

A JSON number is an optional minus sign, digits without a leading zero, an
optional fraction and an optional exponent.  Without fraction and exponent it
is an integer, as long as 64 bits hold it.  Every other number is a binary
number.

For a binary number the digits are collected into a significand of 64 bits.
Digits for which it has no room are dropped.  The significand is rounded to a
binary number and then multiplied or divided by a power of ten, which is
rounded again.  A number that becomes infinite has no value.
-/

namespace Barrage.Json

open Barrage.Number

/-! ## The written form -/

/-- A JSON number, with its digits still in place. -/
structure NumberForm where
  negative : Bool
  whole : List Char
  /-- The digits after the point, none if there is no point. -/
  fraction : List Char
  exponent : Option Int
deriving DecidableEq, Repr

namespace NumberForm

/-- The digits before the point: one zero, or digits that start with no zero. -/
def isWhole (digits : List Char) : Bool :=
  isDigits digits && (digits.length == 1 || digits.head? != some '0')

/-- Read an exponent, which may be missing. -/
def exponent? : List Char → Option (Option Int)
  | [] => some none
  | mark :: rest =>
      if mark == 'e' || mark == 'E' then
        let (sign, digits) := Sign.split rest
        if isDigits digits then some (some (sign.apply (digitsValue digits))) else none
      else none

/-- Read a fraction and an exponent, which may both be missing. -/
def fractionAndExponent? : List Char → Option (List Char × Option Int)
  | '.' :: rest =>
      let digits := rest.takeWhile isDigit
      if isDigits digits then
        (exponent? (rest.dropWhile isDigit)).map fun exponent => (digits, exponent)
      else none
  | rest => (exponent? rest).map fun exponent => ([], exponent)

/-- Read a number without its sign. -/
def unsigned?
    (negative : Bool)
    (body : List Char) : Option NumberForm :=
  let whole := body.takeWhile isDigit
  if isWhole whole then
    (fractionAndExponent? (body.dropWhile isDigit)).map fun (fraction, exponent) =>
      ⟨negative, whole, fraction, exponent⟩
  else none

/-- Read a number. -/
def read? : List Char → Option NumberForm
  | '-' :: body => unsigned? true body
  | body => unsigned? false body

end NumberForm

/-! ## Collecting digits -/

/-- Digits collected into a significand of 64 bits, which counts powers of ten. -/
structure Collected where
  significand : Nat
  scale : Int
  /-- Whether a digit has been dropped. -/
  full : Bool
deriving DecidableEq, Repr

/-- The least number that 64 bits do not hold. -/
def wordLimit : Nat := 0x10000000000000000

namespace Collected

/-- Add a digit before the point.  A digit that is dropped leaves a power of ten. -/
def addWhole
    (collected : Collected)
    (digit : Char) : Collected :=
  let next := 10 * collected.significand + digitValue digit
  if collected.full || wordLimit ≤ next then
    { collected with scale := collected.scale + 1, full := true }
  else { collected with significand := next }

/-- Add a digit after the point.  A digit that is dropped leaves nothing. -/
def addFraction
    (collected : Collected)
    (digit : Char) : Collected :=
  let next := 10 * collected.significand + digitValue digit
  if collected.full || wordLimit ≤ next then { collected with full := true }
  else { collected with significand := next, scale := collected.scale - 1 }

end Collected

/-! ## Scaling -/

/-- A power of ten, rounded to a binary number. -/
def powerOfTen (power : Nat) : Float :=
  Float.ofScientific 1 false power

/-- Divide by a power of ten, by 1e308 as often as the power allows. -/
def divideByPower
    (value : Float)
    (power : Nat) : Float :=
  if power ≤ 308 then value / powerOfTen power
  else if value == 0 then value
  else divideByPower (value / powerOfTen 308) (power - 308)
termination_by power

/-- A significand times a power of ten, if it is finite. -/
def scaled?
    (significand : Nat)
    (scale : Int) : Option Float :=
  let start := Float.ofNat significand
  if scale < 0 then some (divideByPower start scale.natAbs)
  else if 308 < scale then if start == 0 then some start else none
  else
    let product := start * powerOfTen scale.toNat
    if product.isInf then none else some product

/-! ## Values -/

/-- What a JSON number denotes. -/
inductive NumberValue
  /-- An integer that 64 bits hold. -/
  | integer (value : Int)
  | real (value : Float)
deriving DecidableEq, Repr

namespace NumberForm

/-- The binary number nearest to what the digits and the exponent say, rounded in steps. -/
def real? (form : NumberForm) : Option Float :=
  let whole := form.whole.foldl Collected.addWhole ⟨0, 0, false⟩
  let all := form.fraction.foldl Collected.addFraction { whole with full := false }
  (scaled? all.significand (all.scale + form.exponent.getD 0)).map fun magnitude =>
    if form.negative then -magnitude else magnitude

/-- The integer that a number without fraction and exponent is, if 64 bits hold it. -/
def integer? (form : NumberForm) : Option Int :=
  if form.fraction.isEmpty && form.exponent.isNone then
    let magnitude := digitsValue form.whole
    if form.negative then
      if 0 < magnitude ∧ magnitude ≤ 0x8000000000000000 then some (-(magnitude : Int))
      else none
    else if magnitude < wordLimit then some magnitude
    else none
  else none

/-- What a number denotes.  A number that is too large denotes nothing. -/
def value? (form : NumberForm) : Option NumberValue :=
  match form.integer? with
  | some value => some (.integer value)
  | none => form.real?.map .real

end NumberForm

/-- What the characters of a number denote. -/
def numberValue? (token : List Char) : Option NumberValue :=
  (NumberForm.read? token).bind NumberForm.value?

end Barrage.Json
