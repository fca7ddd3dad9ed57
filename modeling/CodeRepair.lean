import CodeRepair.Text.Basic
import CodeRepair.Text.Blank
import CodeRepair.Text.Digit
import CodeRepair.Text.Line
import CodeRepair.Text.Occurrence
import CodeRepair.Finding.Severity
import CodeRepair.Finding.Record
import CodeRepair.Answer
import CodeRepair.Template
import CodeRepair.Decimal.Rounding
import CodeRepair.Decimal.Single
import CodeRepair.Decimal.Shortest
import CodeRepair.Decimal.Layout
import CodeRepair.Text.Utf8
import CodeRepair.Json.Basic
import CodeRepair.Json.Printer
import CodeRepair.Json.Reader
import CodeRepair.Path.Basic
import CodeRepair.Path.Order
import CodeRepair.Document
import CodeRepair.Notice
import CodeRepair.Chat.Request
import CodeRepair.Finding.Diagnostic
import CodeRepair.Finding.Collection
import CodeRepair.Journal
import CodeRepair.Stage
import CodeRepair.Analysis
import CodeRepair.Lint
import CodeRepair.Repair
import CodeRepair.Decimal.Numeral
import CodeRepair.Watch.Event
import CodeRepair.Watch.Loop
import CodeRepair.Chat.Response
import CodeRepair.Toml.Basic
import CodeRepair.Toml.Quoted
import CodeRepair.Toml.Scalar
import CodeRepair.Toml.Unquoted
import CodeRepair.Toml.Outline
import CodeRepair.Toml.Reader
import CodeRepair.Config.Basic
import CodeRepair.Config.Reader
import CodeRepair.Config.Writer
import CodeRepair.FileSystem.Basic
import CodeRepair.FileSystem.Resolution
import CodeRepair.FileSystem.Operation
import CodeRepair.Document.Stored
import CodeRepair.Document.Fixed
import CodeRepair.Config.Stored
import CodeRepair.Refresh
import CodeRepair.Execution.Event
import CodeRepair.Execution.ErrorLine
import CodeRepair.Execution.Duration
import CodeRepair.Execution.Supervision
import CodeRepair.Execution.Command
import CodeRepair.Execution.Interleaving
import CodeRepair.Web.Percent
import CodeRepair.Web.Base64
import CodeRepair.Web.Host
import CodeRepair.Web.Address
import CodeRepair.Web.Exchange
import CodeRepair.Chat.Client
import CodeRepair.Failure
import CodeRepair.CommandLine.Invocation
import CodeRepair.CommandLine.Reader
import CodeRepair.CommandLine.Run
import CodeRepair.Watch.Poll
import CodeRepair.Main
import CodeRepair.Refresh.Interleaving
import CodeRepair.Shell.Start
import CodeRepair.Shell.System
import CodeRepair.Proofs.Repair.Composition
import CodeRepair.Proofs.Finding.Pattern
import CodeRepair.Proofs.Finding.Report
import CodeRepair.Proofs.FileSystem.Growth
import CodeRepair.Proofs.Path.Parent
import CodeRepair.Proofs.FileSystem.Directory
import CodeRepair.Proofs.FileSystem.Late
import CodeRepair.Proofs.Document.Fixed
import CodeRepair.Proofs.Repair.Faithful
import CodeRepair.Proofs.Repair.Document
import CodeRepair.Proofs.Finding.Publication
import CodeRepair.Proofs.Execution.Progress
import CodeRepair.Proofs.Execution.Collected
import CodeRepair.Proofs.Execution.Consumer
import CodeRepair.Proofs.Text.Decoding
import CodeRepair.Proofs.Text.Lines
import CodeRepair.Proofs.Text.Ascii
import CodeRepair.Proofs.Execution.ErrorLine
import CodeRepair.Proofs.Finding.Limit
import CodeRepair.Proofs.Refresh.Alone
import CodeRepair.Proofs.Refresh.Together
import CodeRepair.Proofs.Finding.Listing
import CodeRepair.Proofs.Text.Number
import CodeRepair.Proofs.Json.RoundTrip
import CodeRepair.Proofs.Finding.JsonListing
import CodeRepair.Proofs.FileSystem.Writing
import CodeRepair.Proofs.CommandLine.Fix
import CodeRepair.Proofs.Chat.Endpoint
import CodeRepair.Proofs.Config.Stored
import CodeRepair.Proofs.Finding.Grammar
import CodeRepair.Proofs.Finding.Position
import CodeRepair.Proofs.Path.Order
import CodeRepair.Proofs.Watch.Batches
import CodeRepair.Proofs.Json.Numeral
import CodeRepair.Proofs.Json.Member
import CodeRepair.Proofs.Decimal.Layout
import CodeRepair.Proofs.Chat.Request
import CodeRepair.Proofs.Chat.Calls
import CodeRepair.Proofs.CommandLine.Status
import CodeRepair.Proofs.Finding.Lines
import CodeRepair.Proofs.Text.Slice
import CodeRepair.Proofs.Text.FirstOccurrence
import CodeRepair.Proofs.Template.Splice
import CodeRepair.Proofs.Lint
import CodeRepair.Proofs.Path.FileName
import CodeRepair.Proofs.FileSystem.Ending
import CodeRepair.Proofs.Config.Storing
import CodeRepair.Proofs.FileSystem.Ordinary
import CodeRepair.Proofs.Document.Output
import CodeRepair.Proofs.Json.Grammar
import CodeRepair.Proofs.Chat.Response
import CodeRepair.Proofs.Path.Absolute
import CodeRepair.Proofs.Document.Identity
import CodeRepair.Proofs.Watch.Saved
import CodeRepair.Proofs.Decimal.Exact
import CodeRepair.Proofs.Toml.Numeral
import CodeRepair.Proofs.Config.Overlay
import CodeRepair.Proofs.Decimal.Range
import CodeRepair.Proofs.Config.Safety
