import FixFirst.Aggregate
import FixFirst.Batch.Process
import FixFirst.Batch.Queue
import FixFirst.CommandLine
import FixFirst.Config
import FixFirst.Console
import FixFirst.Course
import FixFirst.Decimal.Exact
import FixFirst.Decimal.Layout
import FixFirst.Decimal.Nearest
import FixFirst.Decimal.Read
import FixFirst.Decimal.Shortest
import FixFirst.Digest.Blake2b
import FixFirst.Digest.Bytes
import FixFirst.Digest.Sha256
import FixFirst.Disk
import FixFirst.Disk.Basic
import FixFirst.Disk.Resolve
import FixFirst.Disk.Walk
import FixFirst.Engine
import FixFirst.Fault
import FixFirst.Findings.Notices
import FixFirst.Findings.Records
import FixFirst.Fingerprint
import FixFirst.Issue
import FixFirst.Job
import FixFirst.Json.Basic
import FixFirst.Json.Fields
import FixFirst.Json.Printer
import FixFirst.Json.Reader
import FixFirst.Keyed
import FixFirst.Main
import FixFirst.Markup.Literal
import FixFirst.Markup.Literal.Level
import FixFirst.Markup.Literal.Token
import FixFirst.Markup.Pictogram
import FixFirst.Markup.Render
import FixFirst.Markup.Style
import FixFirst.Moment
import FixFirst.Monitor
import FixFirst.Options
import FixFirst.Outcome
import FixFirst.Path
import FixFirst.Phase
import FixFirst.Pressure
import FixFirst.Program
import FixFirst.Proofs.Act
import FixFirst.Proofs.Aggregate
import FixFirst.Proofs.Aggregate.Exact
import FixFirst.Proofs.Aggregate.Stages
import FixFirst.Proofs.Batch.Conservation
import FixFirst.Proofs.Batch.Ending
import FixFirst.Proofs.Batch.Handing
import FixFirst.Proofs.Batch.Label
import FixFirst.Proofs.Batch.Planning
import FixFirst.Proofs.Batch.Priority
import FixFirst.Proofs.Batch.Rounds
import FixFirst.Proofs.Beside.Acts
import FixFirst.Proofs.Beside.Checks
import FixFirst.Proofs.Beside.Courses
import FixFirst.Proofs.Beside.Fixes
import FixFirst.Proofs.Beside.Jobs
import FixFirst.Proofs.Beside.Memory
import FixFirst.Proofs.Beside.Reports
import FixFirst.Proofs.Beside.Runs
import FixFirst.Proofs.Beside.Turns
import FixFirst.Proofs.Beside.Worlds
import FixFirst.Proofs.Console
import FixFirst.Proofs.Disk
import FixFirst.Proofs.Names
import FixFirst.Proofs.Range
import FixFirst.Proofs.Run.Accounting
import FixFirst.Proofs.Run.Batches
import FixFirst.Proofs.Run.Calls
import FixFirst.Proofs.Run.Checking
import FixFirst.Proofs.Run.Conduct
import FixFirst.Proofs.Run.Course
import FixFirst.Proofs.Run.Deadlines
import FixFirst.Proofs.Run.Escape
import FixFirst.Proofs.Run.Fixing
import FixFirst.Proofs.Run.History
import FixFirst.Proofs.Run.Jobs
import FixFirst.Proofs.Run.Limits
import FixFirst.Proofs.Run.Outcomes
import FixFirst.Proofs.Run.Passage
import FixFirst.Proofs.Run.Places
import FixFirst.Proofs.Run.Recheck
import FixFirst.Proofs.Run.Sequence
import FixFirst.Proofs.Run.Silence
import FixFirst.Proofs.Run.Staged
import FixFirst.Proofs.Run.Success
import FixFirst.Proofs.Run.Tools
import FixFirst.Proofs.Session.Reuse
import FixFirst.Proofs.Session.Sound
import FixFirst.Proofs.Session.Unchanged
import FixFirst.Proofs.Session.Upkeep
import FixFirst.Proofs.Token.Calm
import FixFirst.Proofs.Token.Drain
import FixFirst.Proofs.Token.Growth
import FixFirst.Proofs.Token.Listeners
import FixFirst.Proofs.Token.Moves
import FixFirst.Proofs.Token.Operation
import FixFirst.Proofs.Token.Reach
import FixFirst.Proofs.Token.Timers
import FixFirst.Quantity
import FixFirst.Registry
import FixFirst.Rehearsal.Engine
import FixFirst.Rehearsal.Journal
import FixFirst.Rehearsal.Play
import FixFirst.Rehearsal.Script
import FixFirst.Rehearsal.View
import FixFirst.Report
import FixFirst.Result
import FixFirst.Run
import FixFirst.Schema.Codec
import FixFirst.Schema.Record
import FixFirst.Session
import FixFirst.Severity
import FixFirst.Shell
import FixFirst.Staging
import FixFirst.Summary
import FixFirst.Supervision
import FixFirst.Table
import FixFirst.Text.Blank
import FixFirst.Text.Case
import FixFirst.Text.CharClass
import FixFirst.Text.CharName
import FixFirst.Text.CharName.Africa
import FixFirst.Text.CharName.America
import FixFirst.Text.CharName.Antiquity
import FixFirst.Text.CharName.EastAsia
import FixFirst.Text.CharName.Europe
import FixFirst.Text.CharName.Group
import FixFirst.Text.CharName.Latin
import FixFirst.Text.CharName.Mathematics
import FixFirst.Text.CharName.MiddleEast
import FixFirst.Text.CharName.Notation
import FixFirst.Text.CharName.Pictures
import FixFirst.Text.CharName.Signs
import FixFirst.Text.CharName.SouthAsia
import FixFirst.Text.CharName.SoutheastAsia
import FixFirst.Text.CharWidth
import FixFirst.Text.Columns
import FixFirst.Text.Digit
import FixFirst.Text.Lines
import FixFirst.Text.Printable
import FixFirst.Text.Quoted
import FixFirst.Text.WordChar
import FixFirst.Token.Clockwork
import FixFirst.Token.Forest
import FixFirst.Tool
import FixFirst.World
import FixFirst.Proofs.Aggregate.Merging
import FixFirst.Proofs.Json.Document
import FixFirst.Proofs.Findings.Announced
import FixFirst.Proofs.Findings.Answers
import FixFirst.Proofs.Findings.Layouts
import FixFirst.Proofs.Fault
import FixFirst.Proofs.Fingerprint
import FixFirst.Proofs.Json.Delimited
import FixFirst.Proofs.Listing
import FixFirst.Proofs.Path
import FixFirst.Proofs.Schema
import FixFirst.Proofs.Session.Consistent
import FixFirst.Proofs.Session.Reported
import FixFirst.Proofs.Settings
import FixFirst.Proofs.Text.Bytes
import FixFirst.Proofs.Text.Fields
import FixFirst.Proofs.Pressure
import FixFirst.Proofs.Quantity
import FixFirst.Proofs.Trend
import FixFirst.Proofs.Normal
import FixFirst.Proofs.Decimal.Nearest
import FixFirst.Proofs.Decimal.Shortest
import FixFirst.Proofs.Decimal.Bits
import FixFirst.Proofs.Json.Number
import FixFirst.Proofs.Json.Spread
import FixFirst.Proofs.Record
import FixFirst.Proofs.Report
