import Barrage.Proofs.Schedule.Counting

/-!
# What the commands answer

A text that can be loaded is summed up by `check` and written out by `dump`.
What `check` says is what can be counted in the text itself, and in the output
of `dump` as well.  A text that cannot be loaded is refused by every command in
the same words.
-/

namespace Barrage

open Barrage.Document Barrage.Schedule Barrage.Traversal

/-- The line in which counts are printed for a file. -/
def Counts.line
    (counts : Counts)
    (path : String) : String :=
  s!"{path}: {counts.frames} frames, {counts.events} events, " ++
    s!"{counts.bullets} bullets, last frame {counts.lastFrame}\n"

namespace CommandLine

/-- What comes of a command with a file in which this text stands. -/
def answerTo
    (verb : Verb)
    (path text : String) : Except Fault Answer :=
  (Request.ofArguments [verb.name, path]).map (·.answer (.ok text.toUTF8))

/-! ## Files with a text -/

theorem ofArguments_name
    (verb : Verb)
    (path : String) :
    Request.ofArguments [verb.name, path] = .ok ⟨verb, path⟩ := by
  cases verb <;> rfl

theorem textOfBytes_toUTF8 (text : String) : textOfBytes text.toUTF8 = .ok text.toList := by
  have read : String.fromUTF8? text.toUTF8 = some text := dif_pos text.isValidUTF8
  rw [textOfBytes, read]

theorem loadFile_toUTF8 (path text : String) :
    loadFile path (.ok text.toUTF8) = (load text.toList).mapError (.notLoaded path) := by
  rw [loadFile, Except.bind, textOfBytes_toUTF8]
  rfl

section

variable {path text : String}

theorem answerTo_of_loaded
    (verb : Verb)
    {schedule : Schedule}
    (loaded : load text.toList = .ok schedule) :
    answerTo verb path text =
      .ok
        (match verb with
        | .play => .play path schedule
        | .check => .respond ⟨0, summary path schedule, ""⟩
        | .dump => .respond ⟨0, dumped schedule, ""⟩) := by
  rw [answerTo, ofArguments_name, Except.map, Request.answer, loadFile_toUTF8, loaded]
  rfl

theorem answerTo_of_refused
    (verb : Verb)
    {fault : LoadFault}
    (refused : load text.toList = .error fault) :
    answerTo verb path text =
      .ok (.respond ⟨1, "", s!"Error: Failed to load {path}: {fault.message}\n"⟩) := by
  rw [answerTo, ofArguments_name, Except.map, Request.answer, loadFile_toUTF8, refused]
  rfl

end

theorem summary_eq_line
    (path : String)
    (schedule : Schedule) :
    summary path schedule = (Counts.ofSchedule schedule).line path :=
  rfl

/-! ## Answers -/

/--
For a text that can be loaded, `check` prints what is counted in the blocks of
its document, and the same is counted in the value that is read from the output
of `dump`.  For any other text all commands fail with the same words, and print
nothing else.
-/
theorem check_tells_the_truth (path text : String) :
    match load text.toList with
    | .ok _ =>
        ∃ document blocks output json,
          readDocument text.toList = .ok document ∧
            IsDocument document blocks ∧
              answerTo .check path text =
                  .ok (.respond ⟨0, (Counts.ofBlocks blocks).line path, ""⟩) ∧
                answerTo .dump path text = .ok (.respond ⟨0, output, ""⟩) ∧
                  Json.read? output.toList = some json ∧
                    Counts.ofJson json = Counts.ofBlocks blocks
    | .error fault =>
        ∀ verb,
          answerTo verb path text =
            .ok (.respond ⟨1, "", s!"Error: Failed to load {path}: {fault.message}\n"⟩) := by
  cases loaded : load text.toList with
  | ok schedule =>
      obtain ⟨document, blocks, read, described, built⟩ := load_eq_ok_iff.mp loaded
      have counted : Counts.ofSchedule schedule = Counts.ofBlocks blocks := by
        rw [← built, Counts.ofSchedule_ofBlocks]
      refine
        ⟨document, blocks, dumped schedule, schedule.toJson, read, described, ?_,
          answerTo_of_loaded .dump loaded, read?_dumped schedule, ?_⟩
      · rw [← counted, ← summary_eq_line]
        exact answerTo_of_loaded .check loaded
      · rw [Counts.ofJson_toJson, counted]
  | error fault => exact fun verb => answerTo_of_refused verb loaded

end CommandLine

end Barrage
