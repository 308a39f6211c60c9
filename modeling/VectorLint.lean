import VectorLint.Command.Arguments
import VectorLint.Command.Run
import VectorLint.Config.Basic
import VectorLint.Config.Json
import VectorLint.Config.Load
import VectorLint.Config.Yaml
import VectorLint.Decimal.Nearest
import VectorLint.Decimal.Shortest
import VectorLint.Document.Basic
import VectorLint.Document.Navigation
import VectorLint.Document.Parse
import VectorLint.Entries
import VectorLint.Files.Path
import VectorLint.Files.Tree
import VectorLint.Glob.Pattern
import VectorLint.Glob.Search
import VectorLint.Json.Reader
import VectorLint.Json.Value
import VectorLint.Json.Writer
import VectorLint.Main
import VectorLint.Markup.Attributes
import VectorLint.Markup.Event
import VectorLint.Markup.Reference
import VectorLint.Markup.Scanner
import VectorLint.Output.Json
import VectorLint.Output.Style
import VectorLint.Output.Summary
import VectorLint.Output.Text
import VectorLint.Pattern.Basic
import VectorLint.Pattern.Class
import VectorLint.Pattern.Reader
import VectorLint.Pattern.Syntax
import VectorLint.Proofs.Command.Exit
import VectorLint.Proofs.Command.Linting
import VectorLint.Proofs.Config.History
import VectorLint.Proofs.Config.Inheritance
import VectorLint.Proofs.Config.Written
import VectorLint.Proofs.Document.Excerpt
import VectorLint.Proofs.Document.Forest
import VectorLint.Proofs.Document.Lines
import VectorLint.Proofs.Document.Location
import VectorLint.Proofs.Document.Mark
import VectorLint.Proofs.Document.Outline
import VectorLint.Proofs.Document.Parsing
import VectorLint.Proofs.Document.Reading
import VectorLint.Proofs.Document.RoundTrip
import VectorLint.Proofs.Document.Stepping
import VectorLint.Proofs.Document.Tree
import VectorLint.Proofs.Document.Walks
import VectorLint.Proofs.Json.RoundTrip
import VectorLint.Proofs.Json.Tokens
import VectorLint.Proofs.Markup.Escaping
import VectorLint.Proofs.Markup.Pieces
import VectorLint.Proofs.Markup.Tags
import VectorLint.Proofs.Markup.Written
import VectorLint.Proofs.Output.Coloring
import VectorLint.Proofs.Output.Decoration
import VectorLint.Proofs.Output.Legible
import VectorLint.Proofs.Output.Results
import VectorLint.Proofs.Output.Statistics
import VectorLint.Proofs.Output.Totals
import VectorLint.Proofs.Report.Recording
import VectorLint.Proofs.Report.Trace
import VectorLint.Proofs.Rule.Attributes
import VectorLint.Proofs.Rule.Data
import VectorLint.Proofs.Rule.Elements
import VectorLint.Proofs.Rule.KeyOrder
import VectorLint.Proofs.Rule.Ordering
import VectorLint.Proofs.Rule.Reading
import VectorLint.Proofs.Run.Execution
import VectorLint.Proofs.Run.Instances
import VectorLint.Proofs.Run.Interleaving
import VectorLint.Proofs.Run.Listening
import VectorLint.Proofs.Run.Skipping
import VectorLint.Proofs.Run.Verdict
import VectorLint.Proofs.Selector.Conjunction
import VectorLint.Proofs.Selector.Grammar
import VectorLint.Proofs.Selector.Lists
import VectorLint.Proofs.Selector.Lookup
import VectorLint.Proofs.Selector.Matching
import VectorLint.Proofs.Text.Lines
import VectorLint.Proofs.Text.Split
import VectorLint.Proofs.Text.Trim
import VectorLint.Proofs.Yaml.Fuel
import VectorLint.Report.Basic
import VectorLint.Report.Desk
import VectorLint.Report.Diagnostic
import VectorLint.Report.Message
import VectorLint.Report.Reporter
import VectorLint.Rule.Attributes
import VectorLint.Rule.Builtin
import VectorLint.Rule.Elements
import VectorLint.Rule.Options
import VectorLint.Rule.Process
import VectorLint.Rule.Registry
import VectorLint.Rule.Script
import VectorLint.Rule.Settings
import VectorLint.Run.Input
import VectorLint.Run.Linter
import VectorLint.Run.Task
import VectorLint.Selector.Basic
import VectorLint.Selector.Reader
import VectorLint.Text.Alphanumeric
import VectorLint.Text.Blank
import VectorLint.Text.Bytes
import VectorLint.Text.Digit
import VectorLint.Text.Position
import VectorLint.Text.Quoted
import VectorLint.Text.Split
import VectorLint.Unicode.Age
import VectorLint.Unicode.Break
import VectorLint.Unicode.CaseFolding
import VectorLint.Unicode.Category
import VectorLint.Unicode.Property
import VectorLint.Unicode.Runs
import VectorLint.Unicode.Script
import VectorLint.Yaml.Event
import VectorLint.Yaml.Reader
import VectorLint.Yaml.Scalar
import VectorLint.Yaml.Schema
import VectorLint.Yaml.Source
import VectorLint.Yaml.Tag
import VectorLint.Yaml.Token
