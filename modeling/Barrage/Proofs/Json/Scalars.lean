import Barrage.Proofs.Json.Exporting

/-!
# What numbers and texts denote

The digits of a natural number denote it, and nothing else does
(`numberValue?_eq_natural_iff`): a number with a sign, a point or an exponent is
another kind of number.  A text that is written with escapes has the content that
was escaped (`content?_escape`).
-/

namespace Barrage.Json

open Barrage.Number

/-! ## Natural numbers -/

namespace NumberForm

theorem exponent?_eq_none_iff {word : List Char} : exponent? word = some none ↔ word = [] := by
  constructor
  · intro read
    cases word with
    | nil => rfl
    | cons mark rest =>
        rw [exponent?] at read
        split at read
        next =>
          dsimp only at read
          split at read
          next => cases read
          next => cases read
        next => cases read
  · rintro rfl
    rfl

theorem fractionAndExponent?_eq_none_iff
    {word : List Char} :
    fractionAndExponent? word = some ([], none) ↔ word = [] := by
  constructor
  · intro read
    unfold fractionAndExponent? at read
    split at read
    next rest =>
      dsimp only at read
      split at read
      next digits =>
        obtain ⟨exponent, -, same⟩ := Option.map_eq_some_iff.mp read
        rw [(Prod.mk.inj same).1] at digits
        cases digits
      next => cases read
    next =>
      obtain ⟨exponent, found, same⟩ := Option.map_eq_some_iff.mp read
      rw [(Prod.mk.inj same).2] at found
      exact exponent?_eq_none_iff.mp found
  · rintro rfl
    rfl

theorem unsigned?_integer_iff
    {negative : Bool}
    {body : List Char}
    {form : NumberForm} :
    unsigned? negative body = some form ∧ form.fraction = [] ∧ form.exponent = none ↔
      isWhole body = true ∧ form = ⟨negative, body, [], none⟩ := by
  constructor
  · rintro ⟨read, noFraction, noExponent⟩
    rw [unsigned?] at read
    dsimp only at read
    split at read
    next whole =>
      obtain ⟨⟨fraction, exponent⟩, found, rfl⟩ := Option.map_eq_some_iff.mp read
      obtain rfl : fraction = [] := noFraction
      obtain rfl : exponent = none := noExponent
      have nothingElse := fractionAndExponent?_eq_none_iff.mp found
      have all := List.takeWhile_append_dropWhile (p := isDigit) (l := body)
      rw [nothingElse, List.append_nil] at all
      rw [all] at whole ⊢
      exact ⟨whole, rfl⟩
    next => cases read
  · rintro ⟨whole, rfl⟩
    have digits : body.all isDigit = true := by
      rw [isWhole, Bool.and_eq_true] at whole
      exact all_of_isDigits whole.1
    obtain ⟨taken, dropped⟩ := takeWhile_isDigit digits endsDigits_nil
    rw [List.append_nil] at taken dropped
    refine ⟨?_, rfl, rfl⟩
    rw [unsigned?]
    dsimp only
    rw [taken, dropped, if_pos whole]
    rfl

end NumberForm

theorem toDigits_digitsValue_of_isWhole
    {word : List Char}
    (whole : NumberForm.isWhole word = true) :
    Nat.toDigits 10 (digitsValue word) = word := by
  rw [NumberForm.isWhole, Bool.and_eq_true, Bool.or_eq_true, beq_iff_eq, bne_iff_ne] at whole
  obtain ⟨digits, single | leads⟩ := whole
  · obtain ⟨digit, rfl⟩ := List.length_eq_one_iff.mp single
    have isDigit : isDigit digit = true := by simpa using all_of_isDigits digits
    rw [show digitsValue [digit] = digitValue digit by simp [digitsValue],
      Nat.toDigits_of_lt_base (digitValue_lt isDigit), digitChar_digitValue isDigit]
  · exact toDigits_digitsValue digits leads

theorem NumberForm.read?_of_isWhole
    {word : List Char}
    (whole : isWhole word = true) :
    read? word = some ⟨false, word, [], none⟩ := by
  have digits := all_of_isDigits (Bool.and_eq_true_iff.mp whole).1
  rw [read?]
  · exact (unsigned?_integer_iff.mpr ⟨whole, rfl⟩).1
  · rintro rest rfl
    cases digits

theorem NumberForm.value?_eq_natural_iff
    {form : NumberForm}
    {value : Nat} :
    form.value? = some (.integer value) ↔
      form.fraction = [] ∧ form.exponent = none ∧ form.negative = false ∧
        digitsValue form.whole = value ∧ value < wordLimit := by
  constructor
  · intro isValue
    unfold value? at isValue
    split at isValue
    next whole isInteger =>
      cases isValue
      unfold integer? at isInteger
      split at isInteger
      next plain =>
        rw [Bool.and_eq_true, List.isEmpty_iff, Option.isNone_iff_eq_none] at plain
        dsimp only at isInteger
        split at isInteger
        next =>
          obtain ⟨⟨someUnits, -⟩, same⟩ := Option.ite_none_right_eq_some.mp isInteger
          have below := Option.some.inj same
          omega
        next notNegative =>
          obtain ⟨small, same⟩ := Option.ite_none_right_eq_some.mp isInteger
          obtain rfl := Int.ofNat_inj.mp (Option.some.inj same)
          exact ⟨plain.1, plain.2, Bool.eq_false_iff.mpr notNegative, rfl, small⟩
      next => cases isInteger
    next =>
      obtain ⟨number, -, same⟩ := Option.map_eq_some_iff.mp isValue
      cases same
  · rintro ⟨noFraction, noExponent, positive, rfl, small⟩
    have isInteger : form.integer? = some (digitsValue form.whole : Int) := by
      simp [integer?, noFraction, noExponent, positive, small]
    rw [value?, isInteger]

/-- The numbers that denote a natural number are its digits. -/
theorem numberValue?_eq_natural_iff
    {token : List Char}
    {value : Nat} :
    numberValue? token = some (.integer value) ↔
      token = Nat.toDigits 10 value ∧ value < wordLimit := by
  constructor
  · intro denotes
    obtain ⟨form, read, isValue⟩ := Option.bind_eq_some_iff.mp denotes
    obtain ⟨noFraction, noExponent, positive, rfl, small⟩ :=
      NumberForm.value?_eq_natural_iff.mp isValue
    unfold NumberForm.read? at read
    split at read
    next =>
      obtain ⟨-, rfl⟩ := NumberForm.unsigned?_integer_iff.mp ⟨read, noFraction, noExponent⟩
      cases positive
    next =>
      obtain ⟨whole, rfl⟩ := NumberForm.unsigned?_integer_iff.mp ⟨read, noFraction, noExponent⟩
      exact ⟨(toDigits_digitsValue_of_isWhole whole).symm, small⟩
  · rintro ⟨rfl, small⟩
    rw [numberValue?, NumberForm.read?_of_isWhole (isWhole_toDigits value), Option.bind_some]
    exact
      NumberForm.value?_eq_natural_iff.mpr ⟨rfl, rfl, rfl, digitsValue_toDigits value, small⟩

/-! ## Texts -/

theorem hexDigit?_digitChar
    {digit : Nat}
    (small : digit < 16) :
    hexDigit? (Nat.digitChar digit) = some digit := by
  revert digit
  decide

theorem codeUnit?_of_lt
    {unit : Nat}
    (small : unit < 256) :
    codeUnit? '0' '0' (Nat.digitChar (unit / 16)) (Nat.digitChar (unit % 16)) = some unit := by
  have high := hexDigit?_digitChar (by omega : unit / 16 < 16)
  have low := hexDigit?_digitChar (by omega : unit % 16 < 16)
  have zero : hexDigit? '0' = some 0 := rfl
  simp only [codeUnit?, zero, high, low, Option.bind_eq_bind, Option.bind_some, Option.pure_def,
    Option.some.injEq]
  omega

theorem contentOnto_plain
    {character : Char}
    (notBackslash : character ≠ '\\')
    (newestFirst rest : List Char) :
    contentOnto newestFirst (character :: rest) = contentOnto (character :: newestFirst) rest := by
  rw [contentOnto]
  all_goals
    intros
    contradiction

theorem contentOnto_unitEscape
    {unit : Nat}
    (small : unit < 256)
    (newestFirst rest : List Char) :
    contentOnto newestFirst (unitEscape unit ++ rest) =
      contentOnto (Char.ofNat unit :: newestFirst) rest := by
  have notOpening : opensPair unit = false := by
    simp only [opensPair, Bool.and_eq_false_iff, decide_eq_false_iff_not]
    omega
  have notClosing : closesPair unit = false := by
    simp only [closesPair, Bool.and_eq_false_iff, decide_eq_false_iff_not]
    omega
  rw [unitEscape]
  simp only [List.cons_append, List.nil_append]
  rw [contentOnto, codeUnit?_of_lt small]
  dsimp only
  rw [notOpening, notClosing, if_neg Bool.false_ne_true, if_neg Bool.false_ne_true]

theorem contentOnto_escapeCharacter
    (character : Char)
    (newestFirst rest : List Char) :
    contentOnto newestFirst (escapeCharacter character ++ rest) =
      contentOnto (character :: newestFirst) rest := by
  unfold escapeCharacter
  split
  case h_8 notQuote notBackslash _ _ _ _ _ =>
    split
    next control =>
      rw [contentOnto_unitEscape (by omega), Char.ofNat_toNat]
    next => exact contentOnto_plain notBackslash newestFirst rest
  all_goals rfl

theorem contentOnto_escape
    (content newestFirst : List Char) :
    contentOnto newestFirst (escape content) = some (newestFirst.reverse ++ content) := by
  induction content generalizing newestFirst with
  | nil => simp [escape, contentOnto]
  | cons character rest ih =>
      rw [escape, List.flatMap_cons, contentOnto_escapeCharacter, ← escape, ih]
      simp

/-- What is escaped is what the text then stands for. -/
theorem content?_escape (content : List Char) : content? (escape content) = some content :=
  contentOnto_escape content []

end Barrage.Json
