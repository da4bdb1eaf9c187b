/-!
# Numerals

How numbers are written with decimal digits: the value of a digit string,
integers with an optional sign, and decimal numerals with a fraction and an
exponent.

An integer is kept exactly or not at all.  A decimal numeral denotes the
binary number nearest to it, ties going to the even significand, and infinity
where the numeral is too large for every binary number.
-/

namespace Barrage.Number

/-! ## Digits -/

/-- The ten decimal digits. -/
def isDigit (character : Char) : Bool :=
  '0' ≤ character && character ≤ '9'

/-- The value of a decimal digit. -/
def digitValue (digit : Char) : Nat :=
  digit.toNat - '0'.toNat

/-- The number that a digit string denotes, continued from `initial`. -/
def digitsValueFrom
    (initial : Nat)
    (digits : List Char) : Nat :=
  digits.foldl (fun value digit => 10 * value + digitValue digit) initial

/-- The number that a digit string denotes. -/
def digitsValue (digits : List Char) : Nat :=
  digitsValueFrom 0 digits

@[simp]
theorem digitsValueFrom_nil (initial : Nat) : digitsValueFrom initial [] = initial := rfl

@[simp]
theorem digitsValueFrom_cons
    (initial : Nat)
    (digit : Char)
    (digits : List Char) :
    digitsValueFrom initial (digit :: digits) =
      digitsValueFrom (10 * initial + digitValue digit) digits := by
  simp [digitsValueFrom]

theorem digitsValueFrom_append
    (initial : Nat)
    (before after : List Char) :
    digitsValueFrom initial (before ++ after) =
      digitsValueFrom (digitsValueFrom initial before) after := by
  simp [digitsValueFrom, List.foldl_append]

/-- A word that is one or more digits and nothing else. -/
def isDigits (word : List Char) : Bool :=
  !word.isEmpty && word.all isDigit

/-! ## Integers -/

/-- The sign in front of a numeral. -/
inductive Sign
  | none
  | plus
  | minus
deriving DecidableEq, Repr

namespace Sign

/-- Divide a word into its sign and what follows the sign. -/
def split : List Char → Sign × List Char
  | '+' :: rest => (plus, rest)
  | '-' :: rest => (minus, rest)
  | word => (none, word)

/-- A number with a sign in front. -/
def apply : Sign → Int → Int
  | minus, value => -value
  | _, value => value

end Sign

/-- The integer that a word denotes: an optional sign and one or more digits. -/
def integer? (word : List Char) : Option Int :=
  let (sign, digits) := Sign.split word
  if isDigits digits then some (sign.apply (digitsValue digits)) else none

/-- The natural number below a limit that a word denotes: digits with an optional plus sign. -/
def naturalBelow?
    (limit : Nat)
    (word : List Char) : Option Nat :=
  let digits :=
    match word with
    | '+' :: rest => rest
    | rest => rest
  if isDigits digits ∧ digitsValue digits < limit then some (digitsValue digits) else none

/-- The integers of a document: those of 64 bits with a sign. -/
def isDocumentInteger (value : Int) : Bool :=
  -0x8000000000000000 ≤ value && value < 0x8000000000000000

/-! ## Decimal numerals -/

/--
An exponent written in digits.  Once it has passed 65535 it stays as it is:
every numeral of that size is zero or infinite.
-/
def exponentValue (digits : List Char) : Nat :=
  digits.foldl
    (fun value digit => if value < 65536 then 10 * value + digitValue digit else value)
    0

/-- A decimal numeral, with its digits still in place. -/
structure Numeral where
  negative : Bool
  /-- The digits before the point. -/
  whole : List Char
  /-- The digits after the point. -/
  fraction : List Char
  /-- The power of ten that the numeral is multiplied by. -/
  exponent : Int
deriving DecidableEq, Repr

namespace Numeral

/-- The exponent part of a numeral, which may be missing. -/
def exponent? : List Char → Option Int
  | [] => some 0
  | mark :: rest =>
      if mark == 'e' || mark == 'E' then
        let (sign, digits) := Sign.split rest
        if isDigits digits then some (sign.apply (exponentValue digits)) else none
      else none

/--
Read a numeral: an optional sign, digits with an optional point among them,
and an optional exponent.  At least one digit stands before or after the
point.
-/
def read? (word : List Char) : Option Numeral :=
  let (sign, body) := Sign.split word
  let whole := body.takeWhile isDigit
  let afterWhole := body.dropWhile isDigit
  let (fraction, afterFraction) :=
    match afterWhole with
    | '.' :: rest => (rest.takeWhile isDigit, rest.dropWhile isDigit)
    | rest => ([], rest)
  if whole.isEmpty && fraction.isEmpty then none
  else
    (exponent? afterFraction).map fun exponent =>
      ⟨sign == .minus, whole, fraction, exponent⟩

/-- All digits of a numeral, from the first that is not zero. -/
def significantDigits (numeral : Numeral) : List Char :=
  (numeral.whole ++ numeral.fraction).dropWhile (· == '0')

/-- The power of ten that belongs to the last digit. -/
def scale (numeral : Numeral) : Int :=
  numeral.exponent - numeral.fraction.length

end Numeral

/--
The binary number nearest to the value of some digits times a power of ten,
ties going to the even significand.  The first digit is not zero.  A product
of more than 310 digits before the point exceeds every finite number, and one
that starts more than 330 places after the point is nearer to zero than to
any other.
-/
def nearest
    (digits : List Char)
    (scale : Int) : Float :=
  let digitsBeforePoint := scale + digits.length
  if digits.isEmpty || digitsBeforePoint < -330 then 0
  else if 310 < digitsBeforePoint then 1 / 0
  else Float.ofScientific (digitsValue digits) (scale < 0) scale.natAbs

/-- The binary number that a numeral denotes. -/
def Numeral.value (numeral : Numeral) : Float :=
  let magnitude := nearest numeral.significantDigits numeral.scale
  if numeral.negative then -magnitude else magnitude

end Barrage.Number
