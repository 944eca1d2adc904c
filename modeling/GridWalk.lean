import GridWalk.Client.Color
import GridWalk.Client.Game
import GridWalk.Client.Playlist
import GridWalk.Client.Prompt
import GridWalk.Client.Scene
import GridWalk.Client.Sitting
import GridWalk.Client.Ticker
import GridWalk.Command.Brackets
import GridWalk.Command.Count
import GridWalk.Command.Reader
import GridWalk.Command.Reading
import GridWalk.Command.Reference
import GridWalk.Command.Rules
import GridWalk.CommandLine.Arguments
import GridWalk.CommandLine.Execution
import GridWalk.Desk
import GridWalk.Direction
import GridWalk.Files
import GridWalk.Headless
import GridWalk.Journal
import GridWalk.Json.Basic
import GridWalk.Json.Reading
import GridWalk.Json.Token
import GridWalk.Json.Writing
import GridWalk.Level.Basic
import GridWalk.Level.Catalog
import GridWalk.Level.Generator
import GridWalk.Level.Layout
import GridWalk.Level.Loading
import GridWalk.Level.Picture
import GridWalk.Level.Placement
import GridWalk.Level.Rules
import GridWalk.Main
import GridWalk.Number.Basic
import GridWalk.Number.Reading
import GridWalk.Position
import GridWalk.Program
import GridWalk.Program.Unrolled
import GridWalk.Proofs.Client.Closing
import GridWalk.Proofs.Client.Keeping
import GridWalk.Proofs.Client.Running
import GridWalk.Proofs.Client.Showing
import GridWalk.Proofs.Client.Turning
import GridWalk.Proofs.Command.Acceptance
import GridWalk.Proofs.Command.Brackets
import GridWalk.Proofs.Command.Count
import GridWalk.Proofs.Command.Grammar
import GridWalk.Proofs.Command.Juxtaposing
import GridWalk.Proofs.Command.Matching
import GridWalk.Proofs.Command.Noting
import GridWalk.Proofs.Command.Printing
import GridWalk.Proofs.Command.Recognition
import GridWalk.Proofs.Command.Relaxing
import GridWalk.Proofs.Command.Saturation
import GridWalk.Proofs.Command.Scanning
import GridWalk.Proofs.Command.Spelling
import GridWalk.Proofs.Command.Tokens
import GridWalk.Proofs.CommandLine.Refusing
import GridWalk.Proofs.Desk
import GridWalk.Proofs.Files
import GridWalk.Proofs.Json.Reading
import GridWalk.Proofs.Json.Tokens
import GridWalk.Proofs.Level.Approaching
import GridWalk.Proofs.Level.Cells
import GridWalk.Proofs.Level.Generated
import GridWalk.Proofs.Level.Grid
import GridWalk.Proofs.Level.Guide
import GridWalk.Proofs.Level.Guiding
import GridWalk.Proofs.Level.Layout
import GridWalk.Proofs.Level.Loading
import GridWalk.Proofs.Level.Margins
import GridWalk.Proofs.Level.Names
import GridWalk.Proofs.Level.Picture
import GridWalk.Proofs.Level.Redrawing
import GridWalk.Proofs.Level.WellFormed
import GridWalk.Proofs.Level.Winning
import GridWalk.Proofs.Number.Digits
import GridWalk.Proofs.Number.Magnitude
import GridWalk.Proofs.Number.Short
import GridWalk.Proofs.Program.Unrolled
import GridWalk.Proofs.Records.Best
import GridWalk.Proofs.Records.Recorder
import GridWalk.Proofs.Records.Reopening
import GridWalk.Proofs.Records.Score
import GridWalk.Proofs.Script.Commands
import GridWalk.Proofs.Script.Forgetting
import GridWalk.Proofs.Script.Sequence
import GridWalk.Proofs.Text.Decimal
import GridWalk.Proofs.Visit.Account
import GridWalk.Proofs.Visit.Alike
import GridWalk.Proofs.Visit.Answers
import GridWalk.Proofs.Visit.Arrival
import GridWalk.Proofs.Visit.Attempts
import GridWalk.Proofs.Visit.Caller
import GridWalk.Proofs.Visit.Calling
import GridWalk.Proofs.Visit.Completion
import GridWalk.Proofs.Visit.Deadline
import GridWalk.Proofs.Visit.Departure
import GridWalk.Proofs.Visit.Following
import GridWalk.Proofs.Visit.Passage
import GridWalk.Proofs.Visit.Readings
import GridWalk.Proofs.Visit.Renewal
import GridWalk.Proofs.Visit.Serving
import GridWalk.Proofs.Visit.Standing
import GridWalk.Proofs.Visit.Submission
import GridWalk.Proofs.Visit.Timekeeping
import GridWalk.Proofs.Visit.Undisturbed
import GridWalk.Proofs.Walk.Delivery
import GridWalk.Proofs.Walk.Draining
import GridWalk.Proofs.Walk.Extending
import GridWalk.Proofs.Walk.Leading
import GridWalk.Proofs.Walk.Machine
import GridWalk.Proofs.Walk.Mirroring
import GridWalk.Proofs.Walk.Owning
import GridWalk.Proofs.Walk.Plain
import GridWalk.Proofs.Walk.Refinement
import GridWalk.Proofs.Walk.Rounds
import GridWalk.Proofs.Walk.Sharing
import GridWalk.Proofs.Walk.Soundness
import GridWalk.Random
import GridWalk.Records.Ledger
import GridWalk.Records.Record
import GridWalk.Records.Recorder
import GridWalk.Script
import GridWalk.Text.Case
import GridWalk.Text.CaseTables
import GridWalk.Text.Classes
import GridWalk.Text.Pieces
import GridWalk.Text.Printable
import GridWalk.Text.Quoted
import GridWalk.Visit.Actions
import GridWalk.Visit.Basic
import GridWalk.Visit.Rehearsal
import GridWalk.Walk.Event
import GridWalk.Walk.Notes
import GridWalk.Walk.Replay
import GridWalk.Walk.Run
import GridWalk.Walk.Stepper
