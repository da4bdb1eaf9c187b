import Barrage.CommandLine
import Barrage.Settings.Reading

/-!
# The program

The outer layer: it takes the arguments, reads files and the environment, and
shows a session in the terminal.  The size of the terminal is taken from the
variables `COLUMNS` and `LINES`.  No keys are read here, so a session goes on
until playback ends.
-/

namespace Barrage.Program

open Barrage.CommandLine Barrage.Terminal

/-- Why the system refused to read a file. -/
def readFault : IO.Error → ReadFault
  | .noFileOrDirectory _ _ _ => .system "No such file or directory" 2
  | .permissionDenied _ _ _ => .system "Permission denied" 13
  | .inappropriateType _ _ _ => .system "Is a directory" 21
  | .noSuchThing _ code details => .system details code.toNat
  | .otherError code details => .system details code.toNat
  | fault => .system (toString fault) 5

/-- The bytes of a file. -/
def readBytes (path : String) : IO (Except ReadFault ByteArray) := do
  try
    return .ok (← IO.FS.readBinFile path)
  catch fault =>
    return .error (readFault fault)

/-- A number from the environment. -/
def environmentNumber
    (name : String)
    (default : Nat) : IO Nat := do
  return ((← IO.getEnv name).bind String.toNat?).getD default

/-- The settings of the user, with warnings on the error stream. -/
def loadSettings : IO Settings := do
  let home := (← IO.getEnv "HOME").getD "."
  let contents ← readBytes s!"{home}/.config/ftl-player/player.json"
  let file := (contents.bind textOfBytes).toOption
  let rate ← IO.getEnv "FTL_PLAYER_FPS"
  let loaded := Settings.load file (rate.map String.toList)
  for warning in loaded.warnings do
    IO.eprintln s!"WARN {warning.message}"
  return loaded.settings

/-- Send what a session has added to its output. -/
def flushFrom
    (session : Session)
    (start : Nat) : IO Unit := do
  let stdout ← IO.getStdout
  stdout.putStr (sent (session.transcript.drop start))
  stdout.flush

/-- Take turns at the rate of the settings until the session ends. -/
partial def follow (session : Session) : IO Session := do
  match session.outcome with
  | some _ => return session
  | none =>
      let next := session.turn []
      flushFrom next session.transcript.length
      unless next.outcome.isSome do
        IO.sleep (UInt32.ofNat (session.player.settings.tickNanoseconds / 1000000))
      follow next

/-- Leave what a response says, and its code. -/
def leave (response : Response) : IO UInt32 := do
  IO.print response.output
  IO.eprint response.errors
  return response.code.toUInt32

/-- Show the schedule of a file. -/
def play
    (path : String)
    (schedule : Schedule) : IO UInt32 := do
  let settings ← loadSettings
  let columns ← environmentNumber "COLUMNS" 80
  let rows ← environmentNumber "LINES" 24
  match Session.start schedule settings ⟨UInt16.ofNat columns, UInt16.ofNat rows⟩ with
  | .error fault => leave (startResponse fault)
  | .ok session =>
      flushFrom session 0
      let last ← follow session
      match last.outcome with
      | some outcome => leave (sessionResponse path outcome)
      | none => return 0

end Barrage.Program

open Barrage.CommandLine in
/-- Do what the arguments ask for. -/
def main (arguments : List String) : IO UInt32 := do
  match Request.ofArguments arguments with
  | .error fault => Barrage.Program.leave fault.response
  | .ok request =>
      match request.answer (← Barrage.Program.readBytes request.path) with
      | .respond response => Barrage.Program.leave response
      | .play path schedule => Barrage.Program.play path schedule
