import ProjectLint.Calendar
import ProjectLint.CommandLine.Arguments
import ProjectLint.CommandLine.Help
import ProjectLint.CommandLine.Options
import ProjectLint.CommandLine.Run
import ProjectLint.CommandLine.Surroundings
import ProjectLint.Config.Check
import ProjectLint.Config.Expand
import ProjectLint.Config.Interpret
import ProjectLint.Config.Load
import ProjectLint.Config.Merge
import ProjectLint.Config.Reference
import ProjectLint.Config.Value
import ProjectLint.Execution.Basic
import ProjectLint.Execution.Run
import ProjectLint.Log.Basic
import ProjectLint.Log.Output
import ProjectLint.Main
import ProjectLint.Number.Binary64
import ProjectLint.Number.Decimal
import ProjectLint.Path
import ProjectLint.Project.Binder
import ProjectLint.Project.Context
import ProjectLint.Project.Locate
import ProjectLint.Project.Root
import ProjectLint.Project.SearchPath
import ProjectLint.Proofs.Project.Bind
import ProjectLint.Proofs.Project.BindRun
import ProjectLint.Proofs.Project.Root
import ProjectLint.Proofs.Project.SearchPath
import ProjectLint.Proofs.Report.Header
import ProjectLint.Proofs.Report.HiddenHeader
import ProjectLint.Proofs.Report.Line
import ProjectLint.Proofs.Report.Reading
import ProjectLint.Proofs.Report.RoundTrip
import ProjectLint.Proofs.Session.ContextFor
import ProjectLint.Proofs.Session.Run
import ProjectLint.Report.Basic
import ProjectLint.Report.Diagnostic
import ProjectLint.Report.Finding
import ProjectLint.Report.Json
import ProjectLint.Report.Line
import ProjectLint.Report.Reading
import ProjectLint.Report.Severity
import ProjectLint.Session.Call
import ProjectLint.Session.Command
import ProjectLint.Session.Gather
import ProjectLint.Session.Outcome
import ProjectLint.Session.State
import ProjectLint.Settings
import ProjectLint.Text.Base64
import ProjectLint.Text.Blank
import ProjectLint.Text.Digit
import ProjectLint.Text.Hex
import ProjectLint.Text.JsonString
import ProjectLint.Text.Letter
import ProjectLint.Text.LowerCase
import ProjectLint.Text.Numeral
import ProjectLint.Text.Printable
import ProjectLint.Text.Quoted
import ProjectLint.Text.Similarity
import ProjectLint.Text.Split
import ProjectLint.Text.Utf8
import ProjectLint.World.Basic
import ProjectLint.World.Environment
import ProjectLint.World.FileSystem
import ProjectLint.World.SystemError
import ProjectLint.Yaml.Cursor
import ProjectLint.Yaml.Data.Basic
import ProjectLint.Yaml.Data.OfDocument
import ProjectLint.Yaml.Fault
import ProjectLint.Yaml.Kind
import ProjectLint.Yaml.Node.Basic
import ProjectLint.Yaml.Node.Merge
import ProjectLint.Yaml.Node.OfTokens
import ProjectLint.Yaml.Token.Basic
import ProjectLint.Yaml.Token.Property
import ProjectLint.Yaml.Token.Scalar
import ProjectLint.Yaml.Token.Stream
import ProjectLint.Yaml.Value.Scalar
import ProjectLint.Proofs.Session.Leak
import ProjectLint.Proofs.Session.Overlap
import ProjectLint.Proofs.Session.Machine
import ProjectLint.Proofs.Session.History
import ProjectLint.Proofs.Project.Locate
import ProjectLint.Proofs.Report.Refusal
import ProjectLint.Proofs.Execution.Output
import ProjectLint.Proofs.Session.Delivery
import ProjectLint.Proofs.Session.Outcome
import ProjectLint.Proofs.Session.Refusal
import ProjectLint.Proofs.Report.LineEnds
import ProjectLint.Proofs.Config.Value
import ProjectLint.Proofs.Yaml.Data
import ProjectLint.Proofs.Config.Merge
import ProjectLint.Proofs.Config.Load
import ProjectLint.Proofs.World.Unlink
import ProjectLint.Proofs.Config.Result
import ProjectLint.Proofs.Config.Fault
import ProjectLint.Proofs.Config.BrokenGlobal
import ProjectLint.Proofs.Config.Failure
import ProjectLint.Proofs.CommandLine.Misuse
import ProjectLint.Proofs.Config.Agreement
import ProjectLint.Proofs.Text.Json
import ProjectLint.Proofs.Report.Json
import ProjectLint.Proofs.CommandLine.Presented
import ProjectLint.Proofs.CommandLine.Format
import ProjectLint.Proofs.CommandLine.Lint
import ProjectLint.Proofs.Project.ChildPath
import ProjectLint.Proofs.CommandLine.Runtime
import ProjectLint.Proofs.Config.Key
import ProjectLint.Proofs.Config.Override
import ProjectLint.Proofs.Config.Reference
import ProjectLint.Proofs.Config.Expand
import ProjectLint.Proofs.Config.Commute
import ProjectLint.Proofs.Project.ChildLinter
import ProjectLint.Proofs.Project.Stretch
