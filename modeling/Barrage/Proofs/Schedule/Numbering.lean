import Barrage.Proofs.Number.Integers
import Barrage.Proofs.Schedule.Building

/-!
# Numbers of frames

An atom that is written as an integer denotes this integer, whatever number of
digits it has, if the integer fits into 64 bits with a sign.  Otherwise it
denotes a real number, so that no integer of a document is another one than the
one that was written.

A frame therefore has the number that is written in it, or is refused for it.
-/

namespace Barrage

open Barrage.Document Barrage.Number

namespace Document.Node

/-! ## Integers among the atoms -/

theorem startsLikeNumber_of_split
    {name digits : List Char}
    {sign : Sign}
    (split : Sign.split name = (sign, digits))
    (areDigits : isDigits digits = true) :
    startsLikeNumber name = true := by
  rw [startsLikeNumber, split]
  cases digits with
  | nil => cases areDigits
  | cons first rest =>
      have isDigit : isDigit first = true :=
        List.all_eq_true.mp (all_of_isDigits areDigits) first List.mem_cons_self
      have notPoint : first ≠ '.' := by
        rintro rfl
        cases isDigit
      simpa [notPoint] using isDigit

theorem startsLikeNumber_of_writtenInteger
    {name : List Char}
    {value : Int}
    (written : WrittenInteger name value) :
    startsLikeNumber name = true := by
  cases written with
  | unsigned areDigits => exact startsLikeNumber_of_split (split_of_isDigits areDigits) areDigits
  | plus areDigits => exact startsLikeNumber_of_split rfl areDigits
  | minus areDigits => exact startsLikeNumber_of_split rfl areDigits

theorem isDocumentInteger_iff
    {value : Int} :
    isDocumentInteger value = true ↔ -2 ^ 63 ≤ value ∧ value ≤ 2 ^ 63 - 1 := by
  simp only [isDocumentInteger, Bool.and_eq_true, decide_eq_true_eq]
  omega

/-- An atom is an integer if it is written as one that fits into 64 bits. -/
theorem ofAtom_eq_integer_iff
    {name : List Char}
    {value : Int} :
    ofAtom name = .integer value ↔
      WrittenInteger name value ∧ -2 ^ 63 ≤ value ∧ value ≤ 2 ^ 63 - 1 := by
  rw [← isDocumentInteger_iff, ← integer?_eq_some_iff, ← Option.filter_eq_some_iff, ofAtom]
  by_cases starts : startsLikeNumber name = true
  · rw [if_pos starts]
    cases (integer? name).filter isDocumentInteger with
    | some whole => simp
    | none => cases Numeral.read? name <;> simp
  · rw [if_neg starts]
    refine iff_of_false Node.noConfusion fun read => starts ?_
    exact startsLikeNumber_of_writtenInteger
      (integer?_eq_some_iff.mp (Option.filter_eq_some_iff.mp read).1)

/-- Where no integer fits, there is a real number. -/
theorem exists_real_of_writtenInteger
    {name : List Char}
    {value : Int}
    (written : WrittenInteger name value)
    (tooLarge : ¬ (-2 ^ 63 ≤ value ∧ value ≤ 2 ^ 63 - 1)) :
    ∃ number, ofAtom name = .real number := by
  have refused : (integer? name).filter isDocumentInteger = none := by
    rw [integer?_eq_some_iff.mpr written, Option.filter_some_eq_none, isDocumentInteger_iff]
    exact tooLarge
  obtain ⟨numeral, read⟩ := Option.isSome_iff_exists.mp written.isSome_read?
  refine ⟨numeral.value, ?_⟩
  rw [ofAtom, if_pos (startsLikeNumber_of_writtenInteger written), refused, read]

end Document.Node

namespace Schedule

/-! ## Frames under their numbers -/

/-- A document that describes frames, if only this node is the number of one of them. -/
def IsDocumentAround
    (document number : Node)
    (earlier : List Block)
    (events : List BulletEvent)
    (later : List Block) : Prop :=
  ∃ before frame bullets after,
    document.IsTagged "ftl" (before ++ frame :: after) ∧
      List.Forall₂ IsFrame before earlier ∧
        frame.IsTagged "frame" (number :: bullets) ∧
          List.Forall₂ IsBullet bullets events ∧ List.Forall₂ IsFrame after later

section Around

variable
    {document number : Node}
    {earlier later : List Block}
    {events : List BulletEvent}

/-- With a natural number all is described. -/
theorem IsDocumentAround.isDocument
    (around : IsDocumentAround document number earlier events later)
    {frame : Nat}
    (numbered : number.unquoted = .integer frame) :
    IsDocument document (earlier ++ ⟨frame, events⟩ :: later) := by
  obtain ⟨before, node, bullets, after, tagged, isEarlier, isFrame, areBullets, isLater⟩ := around
  have described : IsFrame node ⟨frame, events⟩ :=
    ⟨number, bullets, isFrame, numbered, areBullets⟩
  exact ⟨_, tagged, List.rel_append isEarlier (.cons described isLater)⟩

/-- Without one nothing is. -/
theorem IsDocumentAround.exists_number
    (around : IsDocumentAround document number earlier events later)
    {blocks : List Block}
    (described : IsDocument document blocks) :
    ∃ frame : Nat, number.unquoted = .integer frame := by
  obtain ⟨before, node, bullets, after, tagged, -, isFrame, -, -⟩ := around
  obtain ⟨entries, taggedEntries, frames⟩ := described
  obtain ⟨-, rfl⟩ := tagged.unique taggedEntries
  have fromHere := List.forall₂_drop before.length frames
  rw [List.drop_left] at fromHere
  obtain ⟨block, -, described, -, -⟩ := List.forall₂_cons_left_iff.mp fromHere
  obtain ⟨otherNumber, otherBullets, otherwise, numbered, -⟩ := described
  obtain ⟨-, same⟩ := isFrame.unique otherwise
  obtain ⟨rfl, -⟩ := List.cons.inj same
  exact ⟨block.frame, numbered⟩

/-- What is loaded has the frame under its number. -/
theorem load_of_around
    {text : List Char}
    (read : readDocument text = .ok document)
    (around : IsDocumentAround document number earlier events later)
    {frame : Nat}
    (numbered : number.unquoted = .integer frame) :
    load text = .ok (ofBlocks (earlier ++ ⟨frame, events⟩ :: later)).schedule :=
  load_eq_ok_iff.mpr ⟨document, _, read, around.isDocument numbered, rfl⟩

theorem eventsAt_of_last
    {frame : Nat}
    (last : ∀ block ∈ later, block.frame ≠ frame) :
    (ofBlocks (earlier ++ ⟨frame, events⟩ :: later)).schedule.eventsAt frame = some events := by
  have nothingLater : later.filter (·.frame = frame) = [] := by simpa using last
  rw [eventsAt_ofBlocks, lastEvents?, List.filter_append, List.filter_cons_of_pos (by simp),
    nothingLater, List.getLast?_concat]
  rfl

end Around

/--
An atom denotes an integer exactly if it is written as one of 64 bits with a
sign, and then it denotes this integer.  One that is written as a larger integer
denotes a real number.

So a frame in a document that is right in all else may be numbered with any
integer that is not negative and fits into 64 bits with a sign, and with no
other.  The frame is scripted under this number.
-/
theorem frames_keep_their_numbers :
    (∀ name value,
      Node.ofAtom name = .integer value ↔
        WrittenInteger name value ∧ -2 ^ 63 ≤ value ∧ value ≤ 2 ^ 63 - 1) ∧
      (∀ name value,
        WrittenInteger name value →
          ¬ (-2 ^ 63 ≤ value ∧ value ≤ 2 ^ 63 - 1) →
            ∃ number, Node.ofAtom name = .real number) ∧
      ∀ text document number earlier events later name value,
        readDocument text = .ok document →
          IsDocumentAround document number earlier events later →
            number.unquoted = .ofAtom name →
              WrittenInteger name value →
                ((∃ schedule, load text = .ok schedule) ↔ 0 ≤ value ∧ value ≤ 2 ^ 63 - 1) ∧
                  ∀ schedule,
                    load text = .ok schedule →
                      schedule =
                          (ofBlocks (earlier ++ ⟨value.toNat, events⟩ :: later)).schedule ∧
                        ((∀ block ∈ later, block.frame ≠ value.toNat) →
                          schedule.eventsAt value.toNat = some events) := by
  refine ⟨fun _ _ => Node.ofAtom_eq_integer_iff, fun _ _ => Node.exists_real_of_writtenInteger, ?_⟩
  intro text document number earlier events later name value read around isAtom written
  have numbered (fits : 0 ≤ value ∧ value ≤ 2 ^ 63 - 1) :
      number.unquoted = .integer value.toNat := by
    rw [isAtom, Node.ofAtom_eq_integer_iff, Int.toNat_of_nonneg fits.1]
    exact ⟨written, by omega, fits.2⟩
  have accepted : (∃ schedule, load text = .ok schedule) ↔ 0 ≤ value ∧ value ≤ 2 ^ 63 - 1 := by
    constructor
    · rintro ⟨schedule, loaded⟩
      obtain ⟨otherDocument, blocks, otherRead, described, -⟩ := load_eq_ok_iff.mp loaded
      obtain rfl := Except.ok.inj (read.symm.trans otherRead)
      obtain ⟨frame, isNumber⟩ := around.exists_number described
      rw [isAtom, Node.ofAtom_eq_integer_iff] at isNumber
      obtain ⟨otherWritten, -, notTooLarge⟩ := isNumber
      obtain rfl : value = frame := by
        rw [← integer?_eq_some_iff] at written otherWritten
        exact Option.some.inj (written.symm.trans otherWritten)
      exact ⟨Int.natCast_nonneg frame, notTooLarge⟩
    · exact fun fits => ⟨_, load_of_around read around (numbered fits)⟩
  refine ⟨accepted, fun schedule loaded => ?_⟩
  have expected := load_of_around read around (numbered (accepted.mp ⟨schedule, loaded⟩))
  obtain rfl := Except.ok.inj (loaded.symm.trans expected)
  exact ⟨rfl, eventsAt_of_last⟩

/-- The greatest number of a frame, with a sign and with zeros in front. -/
theorem greatest_number_is_kept :
    ∃ document number,
      readDocument "(ftl (frame +009223372036854775807))".toList = .ok document ∧
        IsDocumentAround document number [] [] [] ∧
          number.unquoted = .ofAtom "+009223372036854775807".toList ∧
            WrittenInteger "+009223372036854775807".toList 9223372036854775807 ∧
              ∃ schedule,
                load "(ftl (frame +009223372036854775807))".toList = .ok schedule ∧
                  schedule.eventsAt 9223372036854775807 = some [] := by
  have read :
      readDocument "(ftl (frame +009223372036854775807))".toList =
        .ok (.list [.symbol "ftl", .list [.symbol "frame", .integer 9223372036854775807]]) := rfl
  have around :
      IsDocumentAround
        (.list [.symbol "ftl", .list [.symbol "frame", .integer 9223372036854775807]])
        (.integer 9223372036854775807) [] [] [] :=
    ⟨[], _, [], [], ⟨_, rfl, rfl⟩, .nil, ⟨_, rfl, rfl⟩, .nil, .nil⟩
  have isAtom :
      (Node.integer 9223372036854775807).unquoted = .ofAtom "+009223372036854775807".toList := rfl
  have written : WrittenInteger "+009223372036854775807".toList 9223372036854775807 :=
    integer?_eq_some_iff.mp rfl
  obtain ⟨accepted, scheduled⟩ :=
    frames_keep_their_numbers.2.2 _ _ _ _ _ _ _ _ read around isAtom written
  obtain ⟨schedule, loaded⟩ := accepted.mpr (by decide)
  exact
    ⟨_, _, read, around, isAtom, written, schedule, loaded,
      (scheduled schedule loaded).2 fun _ impossible => nomatch impossible⟩

end Schedule

end Barrage
