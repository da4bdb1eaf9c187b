import Barrage.Json.Export
import Barrage.Player.Session
import Barrage.Schedule.Layout

/-!
# The command line

Three commands take a file: `play` shows it in a terminal, `check` sums it up
in a line, and `dump` writes its schedule as JSON.  Further arguments are
passed over.

Reading the file and showing it are left to the outside.  `Request.ofArguments`
says what is asked for and `Request.answer` what comes of it, given the bytes
of the file.
-/

namespace Barrage.CommandLine

open Barrage.Schedule

/-! ## Files -/

/-- Why a file cannot be read as text. -/
inductive ReadFault
  /-- The system refuses, in these words and with this number. -/
  | system (words : String) (number : Nat)
  /-- The bytes of the file are not UTF-8. -/
  | notText
deriving DecidableEq, Repr

/-- The words for a file that cannot be read. -/
def ReadFault.message : ReadFault → String
  | system words number => s!"{words} (os error {number})"
  | notText => "stream did not contain valid UTF-8"

/-! ## Commands -/

/-- What can be done with a file. -/
inductive Verb
  | play
  | check
  | dump
deriving DecidableEq, Repr

/-- The name of a command. -/
def Verb.name : Verb → String
  | play => "play"
  | check => "check"
  | dump => "dump"

/-- The command with a name. -/
def Verb.ofName? (name : String) : Option Verb :=
  if name = "play" then some play
  else if name = "check" then some check
  else if name = "dump" then some dump
  else none

/-- How a command is used. -/
def Verb.usage (verb : Verb) : String :=
  s!"ftl-player {verb.name} <file.ftl>"

/-- What the program is and how it is used. -/
def usage : String :=
  "FTL player — scripted bullet-pattern playback\n\nUsage:\n" ++
    s!"  {Verb.play.usage}\n  {Verb.check.usage}\n  {Verb.dump.usage}"

/-! ## Faults -/

/-- Why nothing comes of a command. -/
inductive Fault
  /-- No command is named. -/
  | noCommand
  /-- The command has no file. -/
  | noFile (verb : Verb)
  | unreadable (path : String) (fault : ReadFault)
  | notLoaded (path : String) (fault : LoadFault)
  | tooSmall (fault : TooSmall)
deriving DecidableEq, Repr

/-- The words for a fault. -/
def Fault.message : Fault → String
  | noCommand => usage
  | noFile verb => verb.usage
  | unreadable path fault => s!"Failed to read {path}: {fault.message}"
  | notLoaded path fault => s!"Failed to load {path}: {fault.message}"
  | tooSmall fault => fault.message

/-- What a command leaves behind. -/
structure Response where
  code : UInt8
  output : String
  errors : String
deriving DecidableEq, Repr

/-- What a fault leaves behind. -/
def Fault.response (fault : Fault) : Response :=
  ⟨1, "", s!"Error: {fault.message}\n"⟩

/-! ## Answers -/

/-- A command and its file. -/
structure Request where
  verb : Verb
  path : String
deriving DecidableEq, Repr

/-- What the arguments ask for. -/
def Request.ofArguments (arguments : List String) : Except Fault Request :=
  match arguments with
  | [] => .error .noCommand
  | name :: rest =>
      match Verb.ofName? name, rest with
      | none, _ => .error .noCommand
      | some verb, [] => .error (.noFile verb)
      | some verb, path :: _ => .ok ⟨verb, path⟩

/-- The characters of a file. -/
def textOfBytes (bytes : ByteArray) : Except ReadFault (List Char) :=
  match String.fromUTF8? bytes with
  | some text => .ok text.toList
  | none => .error .notText

/-- Load the schedule of a file. -/
def loadFile
    (path : String)
    (contents : Except ReadFault ByteArray) : Except Fault Schedule := do
  let text ← (contents.bind textOfBytes).mapError (.unreadable path)
  (load text).mapError (.notLoaded path)

/-- A schedule summed up in a line. -/
def summary
    (path : String)
    (schedule : Schedule) : String :=
  s!"{path}: {schedule.frameCount} frames, {schedule.eventCount} events, " ++
    s!"{schedule.bulletCount} bullets, last frame {schedule.lastFrame}\n"

/-- A schedule written as JSON over several lines. -/
def dumped (schedule : Schedule) : String :=
  String.ofList (schedule.toJson.pretty ++ ['\n'])

/-- What comes of a command. -/
inductive Answer
  | respond (response : Response)
  /-- The schedule of this file is to be shown. -/
  | play (path : String) (schedule : Schedule)

/-- What comes of a request, given the contents of the file. -/
def Request.answer
    (request : Request)
    (contents : Except ReadFault ByteArray) : Answer :=
  match loadFile request.path contents with
  | .error fault => .respond fault.response
  | .ok schedule =>
      match request.verb with
      | .play => .play request.path schedule
      | .check => .respond ⟨0, summary request.path schedule, ""⟩
      | .dump => .respond ⟨0, dumped schedule, ""⟩

/--
What is left behind if no session starts.  An overflow ends the program at once
with a code of its own, and these are the words for it in the report.
-/
def startResponse : StartFault → Response
  | .tooSmall fault => (Fault.tooSmall fault).response
  | .overflow => ⟨101, "", "attempt to add with overflow\n"⟩

/-- What a session that has ended leaves behind. -/
def sessionResponse
    (path : String)
    (outcome : Outcome) : Response :=
  ⟨0, "", outcome.message path ++ "\n"⟩

end Barrage.CommandLine
