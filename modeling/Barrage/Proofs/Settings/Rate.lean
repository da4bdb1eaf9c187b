import Barrage.Proofs.Number.Digits
import Barrage.Settings.Reading

/-!
# The rate from outside

A word sets the rate if it is a positive integer of 32 bits between blanks, with a
plus sign or without.  It may have any number of digits, zeros in front among them.
Every other word leaves all settings as they are and is warned of.
-/

namespace Barrage.Settings

open Barrage.Number Barrage.Text

/-! ## Blanks around a word -/

section Trim

variable {before word after : List Char}

theorem dropWhile_isBlank_append
    (blankBefore : before.all isBlank = true)
    (noBlank : ∀ character ∈ word, isBlank character = false)
    (someWord : word ≠ []) :
    (before ++ (word ++ after)).dropWhile isBlank = word ++ after := by
  rw [List.dropWhile_append_of_pos (List.all_eq_true.mp blankBefore)]
  cases word with
  | nil => exact absurd rfl someWord
  | cons first rest =>
      rw [List.cons_append, List.dropWhile_cons_of_neg]
      rw [noBlank first List.mem_cons_self]
      exact Bool.false_ne_true

/-- A word without blanks is what is left when the blanks around it are removed. -/
theorem trim_append
    (blankBefore : before.all isBlank = true)
    (blankAfter : after.all isBlank = true)
    (noBlank : ∀ character ∈ word, isBlank character = false)
    (someWord : word ≠ []) :
    trim (before ++ (word ++ after)) = word := by
  have backwards :
      (after.reverse ++ (word.reverse ++ [])).dropWhile isBlank = word.reverse ++ [] := by
    refine dropWhile_isBlank_append ?_ ?_ ?_
    · rw [List.all_reverse, blankAfter]
    · intro character member
      exact noBlank character (List.mem_reverse.mp member)
    · exact fun noWord => someWord (List.reverse_eq_nil_iff.mp noWord)
  rw [List.append_nil] at backwards
  rw [trim, dropWhile_isBlank_append blankBefore noBlank someWord, List.reverse_append, backwards,
    List.reverse_reverse]

/-- Nothing but blanks is removed. -/
theorem exists_trim (word : List Char) :
    ∃ before after,
      word = before ++ (trim word ++ after) ∧
        before.all isBlank = true ∧ after.all isBlank = true := by
  refine
    ⟨word.takeWhile isBlank, ((word.dropWhile isBlank).reverse.takeWhile isBlank).reverse,
      ?_, List.all_takeWhile, ?_⟩
  · rw [trim, ← List.reverse_append, List.takeWhile_append_dropWhile, List.reverse_reverse,
      List.takeWhile_append_dropWhile]
  · rw [List.all_reverse]
    exact List.all_takeWhile

end Trim

/-! ## Words for a rate -/

/-- A positive integer of 32 bits in digits, with a plus sign or without. -/
def IsRateWord
    (word : List Char)
    (rate : UInt32) : Prop :=
  ∃ sign digits,
    word = sign ++ digits ∧
      (sign = [] ∨ sign = ['+']) ∧
        isDigits digits = true ∧ digitsValue digits = rate.toNat ∧ 0 < rate

/-- Such an integer between blanks. -/
def DenotesRate
    (word : List Char)
    (rate : UInt32) : Prop :=
  ∃ before inner after,
    word = before ++ (inner ++ after) ∧
      before.all isBlank = true ∧ after.all isBlank = true ∧ IsRateWord inner rate

theorem isBlank_of_isDigit
    {character : Char}
    (digit : isDigit character = true) :
    isBlank character = false := by
  rw [isDigit_eq, Char.isDigit, Bool.and_eq_true, decide_eq_true_iff, decide_eq_true_iff] at digit
  have low : 48 ≤ character.toNat := digit.1
  have high : character.toNat ≤ 57 := digit.2
  simp only [isBlank, Bool.or_eq_false_iff, Bool.and_eq_false_iff, decide_eq_false_iff_not,
    beq_eq_false_iff_ne]
  omega

namespace IsRateWord

variable {word : List Char} {rate : UInt32} (isRateWord : IsRateWord word rate)

include isRateWord

theorem noBlank : ∀ character ∈ word, isBlank character = false := by
  obtain ⟨sign, digits, rfl, isSign, areDigits, -, -⟩ := isRateWord
  intro character member
  rcases List.mem_append.mp member with inSign | inDigits
  · rcases isSign with rfl | rfl
    · cases inSign
    · obtain rfl := List.mem_singleton.mp inSign
      rfl
  · exact isBlank_of_isDigit (List.all_eq_true.mp (all_of_isDigits areDigits) character inDigits)

theorem ne_nil : word ≠ [] := by
  obtain ⟨sign, digits, rfl, -, areDigits, -, -⟩ := isRateWord
  intro nothing
  rw [(List.append_eq_nil_iff.mp nothing).2] at areDigits
  cases areDigits

end IsRateWord

/-- A word is read as a natural number if it is one in digits, with a plus sign or without. -/
theorem naturalBelow?_eq_some_iff
    {limit value : Nat}
    {word : List Char} :
    naturalBelow? limit word = some value ↔
      ∃ sign digits,
        word = sign ++ digits ∧
          (sign = [] ∨ sign = ['+']) ∧
            isDigits digits = true ∧ digitsValue digits = value ∧ value < limit := by
  constructor
  · intro found
    unfold naturalBelow? at found
    split at found
    next rest =>
      obtain ⟨⟨areDigits, small⟩, same⟩ := Option.ite_none_right_eq_some.mp found
      cases same
      exact ⟨['+'], rest, rfl, .inr rfl, areDigits, rfl, small⟩
    next =>
      obtain ⟨⟨areDigits, small⟩, same⟩ := Option.ite_none_right_eq_some.mp found
      cases same
      exact ⟨[], word, rfl, .inl rfl, areDigits, rfl, small⟩
  · rintro ⟨sign, digits, rfl, rfl | rfl, areDigits, rfl, small⟩
    · rw [List.nil_append]
      unfold naturalBelow?
      split
      next => cases areDigits
      next => exact if_pos ⟨areDigits, small⟩
    · exact if_pos ⟨areDigits, small⟩

theorem rateOfWord?_eq_some_iff
    {word : List Char}
    {rate : UInt32} :
    rateOfWord? word = some rate ↔ IsRateWord word rate := by
  constructor
  · intro found
    unfold rateOfWord? at found
    split at found
    next value isNatural =>
      obtain ⟨positive, same⟩ := Option.ite_none_right_eq_some.mp found
      cases same
      obtain ⟨sign, digits, parts, isSign, areDigits, rfl, small⟩ :=
        naturalBelow?_eq_some_iff.mp isNatural
      have kept : (UInt32.ofNat (digitsValue digits)).toNat = digitsValue digits :=
        UInt32.toNat_ofNat_of_lt' small
      refine ⟨sign, digits, parts, isSign, areDigits, kept.symm, ?_⟩
      rw [UInt32.lt_iff_toNat_lt, kept]
      exact positive
    next => cases found
  · rintro ⟨sign, digits, parts, isSign, areDigits, value, positive⟩
    have isNatural : naturalBelow? 0x100000000 word = some rate.toNat :=
      naturalBelow?_eq_some_iff.mpr
        ⟨sign, digits, parts, isSign, areDigits, value, rate.toNat_lt⟩
    have someTicks : 0 < rate.toNat := UInt32.lt_iff_toNat_lt.mp positive
    simp only [rateOfWord?, isNatural]
    rw [if_pos someTicks, UInt32.ofNat_toNat]

theorem rateOfWord?_trim_eq_some_iff
    {word : List Char}
    {rate : UInt32} :
    rateOfWord? (trim word) = some rate ↔ DenotesRate word rate := by
  constructor
  · intro found
    obtain ⟨before, after, parts, blankBefore, blankAfter⟩ := exists_trim word
    exact
      ⟨before, trim word, after, parts, blankBefore, blankAfter, rateOfWord?_eq_some_iff.mp found⟩
  · rintro ⟨before, inner, after, rfl, blankBefore, blankAfter, isRateWord⟩
    rw [trim_append blankBefore blankAfter isRateWord.noBlank isRateWord.ne_nil]
    exact rateOfWord?_eq_some_iff.mpr isRateWord

/-! ## Setting the rate -/

/--
A word from outside sets the rate, and nothing else, exactly if it denotes this rate.
Exactly if it denotes no rate, all settings stay as they are and there is one more
warning.  This is what is done to the settings that a file gives by itself.
-/
theorem rate_is_overridden_by_positive_integer
    (loaded : Loaded)
    (word : List Char) :
    (∀ rate,
        loaded.overrideRate (some word) =
            ⟨{ loaded.settings with rate := rate }, loaded.warnings⟩ ↔
          DenotesRate word rate) ∧
      (loaded.overrideRate (some word) =
            ⟨loaded.settings, loaded.warnings ++ [.invalidRate]⟩ ↔
          ∀ rate, ¬ DenotesRate word rate) ∧
        ∀ file, load file (some word) = (load file none).overrideRate (some word) := by
  have noWarning : loaded.warnings ≠ loaded.warnings ++ [Warning.invalidRate] := by
    intro same
    exact List.cons_ne_nil _ _ (List.self_eq_append_right.mp same)
  cases found : rateOfWord? (trim word) with
  | some given =>
      have denoted := rateOfWord?_trim_eq_some_iff.mp found
      have overridden :
          loaded.overrideRate (some word) =
            ⟨{ loaded.settings with rate := given }, loaded.warnings⟩ := by
        simp only [Loaded.overrideRate, found]
      refine ⟨fun rate => ?_, ?_, fun file => rfl⟩
      · rw [overridden, ← rateOfWord?_trim_eq_some_iff, found, Option.some.injEq]
        constructor
        · intro same
          exact congrArg (fun after => after.settings.rate) same
        · rintro rfl
          rfl
      · rw [overridden]
        constructor
        · intro same
          exact absurd (congrArg Loaded.warnings same) noWarning
        · intro none
          exact absurd denoted (none given)
  | none =>
      have kept :
          loaded.overrideRate (some word) =
            ⟨loaded.settings, loaded.warnings ++ [.invalidRate]⟩ := by
        simp only [Loaded.overrideRate, found]
      refine ⟨fun rate => ?_, ?_, fun file => rfl⟩
      · rw [kept, ← rateOfWord?_trim_eq_some_iff, found]
        constructor
        · intro same
          exact absurd (congrArg Loaded.warnings same).symm noWarning
        · intro impossible
          cases impossible
      · simp only [kept, ← rateOfWord?_trim_eq_some_iff, found, reduceCtorEq, not_false_eq_true,
          implies_true]

/-- Zeros in front do not count towards the size. -/
example : rateOfWord? (trim " +0004294967295\n".toList) = some 4294967295 := by
  decide

end Barrage.Settings
