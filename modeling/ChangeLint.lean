import ChangeLint.Act
import ChangeLint.Analysis
import ChangeLint.Change.Basic
import ChangeLint.Change.Status
import ChangeLint.Checker.Basic
import ChangeLint.Checker.BranchName
import ChangeLint.Checker.Documentation
import ChangeLint.Checker.Formatter
import ChangeLint.Checker.Image
import ChangeLint.Checker.Pattern
import ChangeLint.Command.Basic
import ChangeLint.Command.Program
import ChangeLint.Command.Words
import ChangeLint.CommandLine.Flag
import ChangeLint.CommandLine.Request
import ChangeLint.CommandLine.Run
import ChangeLint.Content
import ChangeLint.Datum
import ChangeLint.Delivery.Receiver
import ChangeLint.Delivery.Sender
import ChangeLint.Delivery.Signal
import ChangeLint.Diff.Basic
import ChangeLint.Diff.Header
import ChangeLint.Diff.Parse
import ChangeLint.Diff.PathQuoting
import ChangeLint.Exclusion
import ChangeLint.Failure
import ChangeLint.Fault
import ChangeLint.Finding.Basic
import ChangeLint.Finding.Record
import ChangeLint.Finding.Relevance
import ChangeLint.Framing
import ChangeLint.Git
import ChangeLint.Interpreter
import ChangeLint.Interpreter.Usual
import ChangeLint.Json.Reader
import ChangeLint.Json.Writer
import ChangeLint.Log
import ChangeLint.Markup.Basic
import ChangeLint.Markup.Style
import ChangeLint.Number.Binary64
import ChangeLint.Number.Shortest
import ChangeLint.Number.Text
import ChangeLint.Order
import ChangeLint.Path
import ChangeLint.Pattern.Basic
import ChangeLint.Pattern.Case
import ChangeLint.Pattern.Match
import ChangeLint.Pattern.Reader
import ChangeLint.Pattern.Refusal
import ChangeLint.Proofs.Act
import ChangeLint.Proofs.Analysis.Answers
import ChangeLint.Proofs.Analysis.Commands
import ChangeLint.Proofs.Analysis.Outcome
import ChangeLint.Proofs.Analysis.Validated
import ChangeLint.Proofs.Analysis.Written
import ChangeLint.Proofs.Change.Listing
import ChangeLint.Proofs.Change.Record
import ChangeLint.Proofs.Change.Renaming
import ChangeLint.Proofs.Change.Truncation
import ChangeLint.Proofs.Change.Union
import ChangeLint.Proofs.Checker.DefaultPattern
import ChangeLint.Proofs.Checker.Documentation
import ChangeLint.Proofs.Checker.Formatter
import ChangeLint.Proofs.Checker.Image
import ChangeLint.Proofs.Checker.Label
import ChangeLint.Proofs.Checker.Linter
import ChangeLint.Proofs.Checker.Unreadable
import ChangeLint.Proofs.Command.Asked
import ChangeLint.Proofs.Command.Program
import ChangeLint.Proofs.Command.Words
import ChangeLint.Proofs.CommandLine.Answer
import ChangeLint.Proofs.CommandLine.Configuration
import ChangeLint.Proofs.Datum
import ChangeLint.Proofs.Delivery.Connection
import ChangeLint.Proofs.Delivery.Course
import ChangeLint.Proofs.Delivery.Deadline
import ChangeLint.Proofs.Delivery.Delivered
import ChangeLint.Proofs.Delivery.Patience
import ChangeLint.Proofs.Delivery.Receiver
import ChangeLint.Proofs.Delivery.Scale
import ChangeLint.Proofs.Delivery.Sending
import ChangeLint.Proofs.Delivery.Session
import ChangeLint.Proofs.Delivery.Step
import ChangeLint.Proofs.Delivery.Stream
import ChangeLint.Proofs.Delivery.Transmission
import ChangeLint.Proofs.Diff.BlankLine
import ChangeLint.Proofs.Diff.Description
import ChangeLint.Proofs.Diff.Header
import ChangeLint.Proofs.Diff.HunkHeader
import ChangeLint.Proofs.Diff.Legible
import ChangeLint.Proofs.Diff.Numbering
import ChangeLint.Proofs.Diff.Parse
import ChangeLint.Proofs.Diff.Patch
import ChangeLint.Proofs.Diff.PathQuoting
import ChangeLint.Proofs.Diff.Quoting
import ChangeLint.Proofs.Diff.Remark
import ChangeLint.Proofs.Diff.Title
import ChangeLint.Proofs.Diff.TrueNumbers
import ChangeLint.Proofs.Ensures
import ChangeLint.Proofs.Except
import ChangeLint.Proofs.Finding.Identity
import ChangeLint.Proofs.Finding.Payload
import ChangeLint.Proofs.Finding.Place
import ChangeLint.Proofs.Finding.Received
import ChangeLint.Proofs.Finding.Record
import ChangeLint.Proofs.Finding.Relevance
import ChangeLint.Proofs.Finding.Selection
import ChangeLint.Proofs.Framing
import ChangeLint.Proofs.Json.Refusal
import ChangeLint.Proofs.Json.RoundTrip
import ChangeLint.Proofs.Json.Scalar
import ChangeLint.Proofs.LineBreaks
import ChangeLint.Proofs.Log
import ChangeLint.Proofs.Markup.Escaping
import ChangeLint.Proofs.Markup.Tags
import ChangeLint.Proofs.Number.Digit
import ChangeLint.Proofs.Number.Integer
import ChangeLint.Proofs.Order
import ChangeLint.Proofs.OrderedSet
import ChangeLint.Proofs.Pattern.Capture
import ChangeLint.Proofs.Pattern.Preference
import ChangeLint.Proofs.Pattern.Way
import ChangeLint.Proofs.Report.Directive
import ChangeLint.Proofs.Report.Records
import ChangeLint.Proofs.Report.Rendering
import ChangeLint.Proofs.Run.Clock
import ChangeLint.Proofs.Run.Containment
import ChangeLint.Proofs.Run.Loop
import ChangeLint.Proofs.Run.Outcome
import ChangeLint.Proofs.Script.Undocumented
import ChangeLint.Proofs.Script.Visit
import ChangeLint.Proofs.Settings.Constraint
import ChangeLint.Proofs.Settings.Escape
import ChangeLint.Proofs.Settings.Layers
import ChangeLint.Proofs.Settings.Priority
import ChangeLint.Proofs.Settings.Validation
import ChangeLint.Proofs.Terminal
import ChangeLint.Proofs.Text.Blank
import ChangeLint.Proofs.Text.Broken
import ChangeLint.Proofs.Text.Split
import ChangeLint.Proofs.Text.Utf8
import ChangeLint.Proofs.Tolerance
import ChangeLint.Proofs.Toml.Keys
import ChangeLint.Proofs.Toml.Refusal
import ChangeLint.Proofs.Written
import ChangeLint.Report
import ChangeLint.Run
import ChangeLint.Script.Block
import ChangeLint.Script.Case
import ChangeLint.Script.Documentation
import ChangeLint.Script.Expression
import ChangeLint.Script.Lexer
import ChangeLint.Script.Number
import ChangeLint.Script.Parser
import ChangeLint.Script.Refusal
import ChangeLint.Script.Statement
import ChangeLint.Script.Text
import ChangeLint.Script.Token
import ChangeLint.Seconds
import ChangeLint.Settings.Basic
import ChangeLint.Settings.Load
import ChangeLint.Settings.Shape
import ChangeLint.Sha256
import ChangeLint.Table
import ChangeLint.Terminal
import ChangeLint.Terminal.Colorless
import ChangeLint.Text.Blank
import ChangeLint.Text.Broken
import ChangeLint.Text.Case
import ChangeLint.Text.Cells
import ChangeLint.Text.Decomposition
import ChangeLint.Text.Digit
import ChangeLint.Text.Identifier
import ChangeLint.Text.Letter
import ChangeLint.Text.Name
import ChangeLint.Text.Normal
import ChangeLint.Text.Printable
import ChangeLint.Text.Quoted
import ChangeLint.Text.Ranges
import ChangeLint.Text.Split
import ChangeLint.Text.Utf8
import ChangeLint.Text.Wrap
import ChangeLint.Toml.Document
import ChangeLint.Toml.Quoted
import ChangeLint.Toml.Refusal
import ChangeLint.Toml.Scalar
import ChangeLint.Toml.Space
import ChangeLint.Toml.Value
