import Barrage.Proofs.Traversal
import Barrage.Schedule.Layout

/-!
# Attempts to build a schedule

The frames of a document are scripted as they are read.  If one of them is
refused, the schedule so far is given up, but what was noted of the frames
before it stays in the journal (`attemptBuild_of_refused`).

Apart from that journal, the same comes of a document if all of its frames are
read before the first of them is scripted (`build_eq`).  In this form the
outcome is a matter of two steps, each of them with its own laws.
-/

namespace Barrage.Schedule

open Barrage.Document Barrage.Traversal

/-! ## Frames that are read first and scripted afterwards -/

/-- Read all frames of a document. -/
def readBlocks (document : Node) : Except Misshapen (List Block) := do
  let entries ←
    (itemsAfterTag "ftl" .documentNotList .documentTag document).mapError (⟨.document, ·⟩)
  entries.zipIdx.mapM fun (entry, index) => readBlock index entry

/-- Script one frame after the other, and note which frames are scripted again. -/
def insertBlocks (schedule : Schedule) : List Block → Built
  | [] => ⟨schedule, []⟩
  | block :: rest =>
      let insertion := schedule.insert block.frame block.events
      let built := insertBlocks insertion.schedule rest
      if insertion.replaced.isSome then
        { built with journal := .frameRepeated block.frame :: built.journal }
      else built

/-- The schedule of some frames.  Of several frames with one number the last one counts. -/
def ofBlocks (blocks : List Block) : Built :=
  let built := insertBlocks empty blocks
  ⟨built.schedule, built.journal ++ [built.schedule.completion]⟩

theorem insertBlocks_cons
    (schedule : Schedule)
    (block : Block)
    (rest : List Block) :
    (insertBlocks schedule (block :: rest)).schedule =
      (insertBlocks (schedule.insert block.frame block.events).schedule rest).schedule := by
  rw [insertBlocks]
  split <;> rfl

/-! ## Frames that are scripted as they are read -/

/-- Entries that are read are scripted, and the attempt goes on with those after them. -/
theorem scriptEntries_append
    (schedule : Schedule)
    {entries : List (Node × Nat)}
    {blocks : List Block}
    (read : entries.mapM (fun entry => readBlock entry.2 entry.1) = .ok blocks)
    (rest : List (Node × Nat)) :
    scriptEntries schedule (entries ++ rest) =
      let built := insertBlocks schedule blocks
      (scriptEntries built.schedule rest).after built.journal := by
  rw [mapM_eq_ok_iff] at read
  induction read generalizing schedule with
  | nil => rfl
  | cons accepted _ ih =>
      rw [List.cons_append, scriptEntries, accepted]
      simp only [ih, insertBlocks]
      split <;> rfl

/-- What was noted of the frames before one that is refused is not given up. -/
theorem scriptEntries_of_refused
    (schedule : Schedule)
    {entries : List (Node × Nat)}
    {blocks : List Block}
    (read : entries.mapM (fun entry => readBlock entry.2 entry.1) = .ok blocks)
    {entry : Node × Nat}
    {misshapen : Misshapen}
    (refused : readBlock entry.2 entry.1 = .error misshapen)
    (rest : List (Node × Nat)) :
    scriptEntries schedule (entries ++ entry :: rest) =
      ⟨(insertBlocks schedule blocks).journal, .error misshapen⟩ := by
  simp only [scriptEntries_append schedule read, scriptEntries, refused, Attempt.refuse,
    Attempt.after, List.append_nil]

theorem attemptBuild_of_refused
    {document : Node}
    {before after : List Node}
    {entry : Node}
    (tagged :
      itemsAfterTag "ftl" .documentNotList .documentTag document = .ok (before ++ entry :: after))
    {blocks : List Block}
    (read : before.zipIdx.mapM (fun entry => readBlock entry.2 entry.1) = .ok blocks)
    {misshapen : Misshapen}
    (refused : readBlock before.length entry = .error misshapen) :
    attemptBuild document = ⟨(insertBlocks empty blocks).journal, .error misshapen⟩ := by
  rw [attemptBuild, tagged]
  simp only [List.zipIdx_append, List.zipIdx_cons]
  refine scriptEntries_of_refused empty read ?_ _
  rwa [Nat.zero_add]

/-! ## The outcome -/

theorem Attempt.built_after
    {Fault : Type}
    (records : List Record)
    (attempt : Attempt Fault) :
    (attempt.after records).built =
      attempt.built.map fun built => { built with journal := records ++ built.journal } := by
  obtain ⟨journal, result⟩ := attempt
  cases result <;> rfl

theorem built_scriptEntries
    (schedule : Schedule)
    (entries : List (Node × Nat)) :
    (scriptEntries schedule entries).built =
      (entries.mapM fun entry => readBlock entry.2 entry.1).map fun blocks =>
        let built := insertBlocks schedule blocks
        ⟨built.schedule, built.journal ++ [built.schedule.completion]⟩ := by
  induction entries generalizing schedule with
  | nil => rfl
  | cons entry rest ih =>
      rw [scriptEntries, List.mapM_cons]
      cases readBlock entry.2 entry.1 with
      | error misshapen => rfl
      | ok block =>
          simp only [Attempt.built_after, ih]
          cases rest.mapM fun entry => readBlock entry.2 entry.1 with
          | error misshapen => rfl
          | ok blocks =>
              simp only [Except.map, bind, Except.bind, pure, Except.pure, insertBlocks]
              split <;> rfl

theorem build_eq (document : Node) :
    build document = (readBlocks document).map ofBlocks := by
  rw [build, attemptBuild, readBlocks]
  cases itemsAfterTag "ftl" .documentNotList .documentTag document with
  | error fault => rfl
  | ok entries => exact built_scriptEntries empty entries.zipIdx

theorem loadNoting_of_readDocument
    {text : List Char}
    {document : Node}
    (read : readDocument text = .ok document) :
    loadNoting text = (build document).mapError .misshapen := by
  have attempted : attemptLoad text =
      ⟨(attemptBuild document).journal, (attemptBuild document).result.mapError .misshapen⟩ := by
    rw [attemptLoad, read]
  rw [loadNoting, attempted, build]
  obtain ⟨journal, result⟩ := attemptBuild document
  cases result <;> rfl

theorem loadNoting_eq (text : List Char) :
    loadNoting text =
      (readDocument text).mapError .malformed >>= fun document =>
        (build document).mapError .misshapen := by
  cases read : readDocument text with
  | error fault =>
      rw [loadNoting, attemptLoad, read]
      rfl
  | ok document =>
      rw [loadNoting_of_readDocument read]
      rfl

end Barrage.Schedule
