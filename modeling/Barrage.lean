import Barrage.Main
import Barrage.Proofs.Document.Grammar
import Barrage.OrderedMap.Lemmas
import Barrage.Terminal.Input
import Barrage.Proofs.Document.Reading
import Barrage.Proofs.Document.Unmarked
import Barrage.Proofs.Number.Whole
import Barrage.Proofs.Schedule.Attempting
import Barrage.Proofs.Schedule.Described
import Barrage.Proofs.Schedule.Reading
import Barrage.Proofs.OrderedMap
import Barrage.Proofs.Schedule.Building
import Barrage.Proofs.Schedule.Unmarked
import Barrage.Proofs.Playback.Run
import Barrage.Proofs.Playback.Trajectory
import Barrage.Proofs.Playback.Phases
import Barrage.Proofs.Playback.Replay
import Barrage.Proofs.Playback.Journal
import Barrage.Proofs.Terminal.Screen
import Barrage.Proofs.Terminal.Printing
import Barrage.Proofs.Canvas
import Barrage.Proofs.Player.Drawing
import Barrage.Proofs.Player.Following
import Barrage.Proofs.Player.Watching
import Barrage.Proofs.Player.Input
import Barrage.Proofs.Player.Pausing
import Barrage.Proofs.Playback.Showing
import Barrage.Proofs.Player.Agreement
import Barrage.Proofs.Document.Spelling
import Barrage.Proofs.Document.Scanning
import Barrage.Proofs.Document.Rejection
import Barrage.Proofs.Document.Spacing
import Barrage.Proofs.Schedule.Spacing
import Barrage.Proofs.Number.Finite
import Barrage.Proofs.Playback.Bounded
import Barrage.Proofs.Player.Moments
import Barrage.Proofs.Player.Lines
import Barrage.Proofs.Player.Starting
import Barrage.Proofs.Document.Enclosing
import Barrage.Proofs.Document.Diagnosis
import Barrage.Proofs.Document.SecondExpression
import Barrage.Proofs.Schedule.Refusing
import Barrage.Proofs.Schedule.Offence
import Barrage.Proofs.Schedule.Entries
import Barrage.Proofs.Schedule.Contents
import Barrage.Proofs.Canvas.Patching
import Barrage.Proofs.Canvas.Rasterizing
import Barrage.Proofs.Number.Digits
import Barrage.Proofs.Number.Shortest
import Barrage.Proofs.Json.Numbers
import Barrage.Proofs.Json.Spelling
import Barrage.Proofs.Json.Writing
import Barrage.Proofs.Json.Reading
import Barrage.Proofs.Json.Exporting
import Barrage.Proofs.Schedule.Written
import Barrage.Proofs.Schedule.Counting
import Barrage.Proofs.CommandLine
import Barrage.Proofs.Schedule.Inserting
import Barrage.Proofs.Number.Rounding
import Barrage.Proofs.Json.Scalars
import Barrage.Proofs.Json.Finite
import Barrage.Proofs.Settings.Rate
import Barrage.Proofs.Settings.Described
import Barrage.Proofs.Settings.Reading
import Barrage.Proofs.Settings.Exporting
import Barrage.Proofs.Settings.Overlaying
import Barrage.Proofs.Text.Position
import Barrage.Proofs.Document.Literals
import Barrage.Proofs.Number.Integers
import Barrage.Proofs.Schedule.Numbering
import Barrage.Proofs.Text.Slicing
import Barrage.Proofs.Checked
import Barrage.Proofs.Document.Accounting
import Barrage.Proofs.Schedule.Loading
