/-!
# The journal

What is worth noting while a document is loaded and played.  A record is
data.  `Record.level`, `Record.message` and `Record.fields` say how it reads
in a log.
-/

namespace Barrage

/-- Something that happened. -/
inductive Record
  /-- A frame was scripted a second time, so that its earlier events give way. -/
  | frameRepeated (frame : Nat)
  /-- A schedule is complete. -/
  | scheduleBuilt (frames events lastFrame : Nat)
  /-- A bullet appeared. -/
  | created (uid : Int) (frame : Nat)
  /-- A bullet in flight was set anew. -/
  | updated (uid : Int) (frame : Nat)
  /-- A bullet left the play area. -/
  | left (uid : Int) (frame : Nat)
  /-- Playback came to its end. -/
  | finished (ticks : Nat)
deriving DecidableEq, Repr

/-- How much attention a record asks for. -/
inductive Level
  | trace
  | debug
  | info
deriving DecidableEq, Repr

/-- The word for a level. -/
def Level.word : Level → String
  | trace => "TRACE"
  | debug => "DEBUG"
  | info => "INFO"

namespace Record

/-- How much attention a record asks for. -/
def level : Record → Level
  | frameRepeated _ | scheduleBuilt _ _ _ => .debug
  | created _ _ | updated _ _ | left _ _ => .trace
  | finished _ => .info

/-- What a record says. -/
def message : Record → String
  | frameRepeated _ => "frame number repeated; later block replaces earlier"
  | scheduleBuilt _ _ _ => "schedule built"
  | created _ _ => "projectile created"
  | updated _ _ => "projectile updated"
  | left _ _ => "projectile left the play area"
  | finished _ => "playback finished"

/-- The particulars of a record, by name. -/
def fields : Record → List (String × Int)
  | frameRepeated frame => [("frame", frame)]
  | scheduleBuilt frames events lastFrame =>
      [("frames", frames), ("events", events), ("last_frame", lastFrame)]
  | created uid frame | updated uid frame | left uid frame =>
      [("uid", uid), ("frame", frame)]
  | finished ticks => [("ticks", ticks)]

end Record

end Barrage
