import Barrage.Proofs.Number.Digits
import Mathlib.Data.List.TakeWhile
import Mathlib.Data.Nat.Digits.Defs

/-!
# Integers in words

An integer is written with an optional sign and with digits, as many as one
likes and zeros in front among them.  Its value is that of its digits by their
places.  A word is read as an integer exactly if it is written so, and then as
this one (`integer?_eq_some_iff`).  It is a decimal numeral as well.
-/

namespace Barrage.Number

/-- The value of digits by their places: the last counts ones, the one before it tens. -/
def placeValue (digits : List Char) : Nat :=
  Nat.ofDigits 10 (digits.reverse.map digitValue)

/-- A word of an optional sign and digits, with the integer that it is written for. -/
inductive WrittenInteger : List Char → Int → Prop
  | unsigned
      {digits : List Char}
      (areDigits : isDigits digits = true) :
      WrittenInteger digits (placeValue digits)
  | plus
      {digits : List Char}
      (areDigits : isDigits digits = true) :
      WrittenInteger ('+' :: digits) (placeValue digits)
  | minus
      {digits : List Char}
      (areDigits : isDigits digits = true) :
      WrittenInteger ('-' :: digits) (-placeValue digits)

/-- Reading digits from the first to the last counts them by their places. -/
theorem digitsValue_eq_placeValue (digits : List Char) : digitsValue digits = placeValue digits := by
  induction digits using List.reverseRecOn with
  | nil => rfl
  | append_singleton front last ih =>
      rw [digitsValue_append_singleton, ih, placeValue, placeValue, List.reverse_append,
        List.reverse_singleton, List.singleton_append, List.map_cons, Nat.ofDigits_cons,
        Nat.add_comm]

theorem integer?_eq_some_iff_of_split
    {word digits : List Char}
    {sign : Sign}
    (split : Sign.split word = (sign, digits))
    {value : Int} :
    integer? word = some value ↔
      isDigits digits = true ∧ sign.apply (placeValue digits) = value := by
  rw [← digitsValue_eq_placeValue, integer?, split]
  exact Option.ite_none_right_eq_some.trans (and_congr_right' (Option.some_inj))

/-- A word is read as an integer if it is written as one. -/
theorem integer?_eq_some_iff
    {word : List Char}
    {value : Int} :
    integer? word = some value ↔ WrittenInteger word value := by
  constructor
  · intro read
    cases word with
    | nil => cases read
    | cons first rest =>
        by_cases plus : first = '+'
        · rw [plus] at read ⊢
          obtain ⟨areDigits, rfl⟩ := (integer?_eq_some_iff_of_split rfl).mp read
          exact .plus areDigits
        by_cases minus : first = '-'
        · rw [minus] at read ⊢
          obtain ⟨areDigits, rfl⟩ := (integer?_eq_some_iff_of_split rfl).mp read
          exact .minus areDigits
        · obtain ⟨areDigits, rfl⟩ :=
            (integer?_eq_some_iff_of_split (split_of_not_sign plus minus rest)).mp read
          exact .unsigned areDigits
  · intro written
    cases written with
    | unsigned areDigits =>
        exact
          (integer?_eq_some_iff_of_split (split_of_isDigits areDigits)).mpr ⟨areDigits, rfl⟩
    | plus areDigits => exact (integer?_eq_some_iff_of_split rfl).mpr ⟨areDigits, rfl⟩
    | minus areDigits => exact (integer?_eq_some_iff_of_split rfl).mpr ⟨areDigits, rfl⟩

/-- Digits without a point and an exponent are a numeral. -/
theorem isSome_read?_of_split
    {word digits : List Char}
    {sign : Sign}
    (split : Sign.split word = (sign, digits))
    (areDigits : isDigits digits = true) :
    (Numeral.read? word).isSome = true := by
  have all := List.all_eq_true.mp (all_of_isDigits areDigits)
  have nonempty : digits.isEmpty = false := by
    rw [isDigits, Bool.and_eq_true, Bool.not_eq_true'] at areDigits
    exact areDigits.1
  have taken : digits.takeWhile isDigit = digits := List.takeWhile_eq_self_iff.mpr all
  have dropped : digits.dropWhile isDigit = [] := List.dropWhile_eq_nil_iff.mpr all
  simp [Numeral.read?, split, taken, dropped, nonempty, Numeral.exponent?]

theorem WrittenInteger.isSome_read?
    {word : List Char}
    {value : Int}
    (written : WrittenInteger word value) :
    (Numeral.read? word).isSome = true := by
  cases written with
  | unsigned areDigits => exact isSome_read?_of_split (split_of_isDigits areDigits) areDigits
  | plus areDigits => exact isSome_read?_of_split rfl areDigits
  | minus areDigits => exact isSome_read?_of_split rfl areDigits

end Barrage.Number
