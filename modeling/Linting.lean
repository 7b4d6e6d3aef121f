import Linting.Config.Encode
import Linting.Json.Reader
import Linting.Linter.Script
import Linting.Main
import Linting.Runner.Memory
import Linting.Toml.Writer
import Linting.Proofs.Runner.Sequential
import Linting.Proofs.Runner.Workers
import Linting.Proofs.Runner.Parallel
import Linting.Proofs.Document.LineIndex
import Linting.Proofs.Document.Locations
import Linting.Proofs.Containment.Calls
import Linting.Proofs.Containment.Traces
import Linting.Proofs.Registry.Registration
import Linting.Proofs.Registry.Histories
import Linting.Proofs.Config.Validation
import Linting.Proofs.Files.Filters
import Linting.Proofs.Registry.Configured
import Linting.Proofs.Document.Lines
import Linting.Proofs.Document.Stretches
import Linting.Proofs.Linter.Spans
import Linting.Proofs.Linter.Order
import Linting.Proofs.Linter.Locality
import Linting.Proofs.Files.PathOrder
import Linting.Proofs.Files.Sorting
import Linting.Proofs.Runner.Order
import Linting.Proofs.CommandLine.Commands
import Linting.Proofs.CommandLine.Selections
import Linting.Proofs.CommandLine.ReportOrder
import Linting.Proofs.Text.Digits
import Linting.Proofs.Text.Utf8
import Linting.Proofs.Json.Scalars
import Linting.Proofs.Json.RoundTrip
import Linting.Proofs.Json.Lines
import Linting.Proofs.Report.Records
import Linting.Proofs.Toml.Escapes
import Linting.Proofs.Toml.Strings
import Linting.Proofs.Toml.Values
import Linting.Proofs.Toml.Lines
import Linting.Proofs.Toml.Documents
import Linting.Proofs.Config.RoundTrip
import Linting.Proofs.Files.Components
import Linting.Proofs.Files.Spelling
import Linting.Proofs.Files.Walk
import Linting.Proofs.Files.Discovery
import Linting.Proofs.Files.Duplicates
import Linting.Proofs.CommandLine.Listings
import Linting.Proofs.CommandLine.Crashes
import Linting.Proofs.Document.LineTexts
import Linting.Proofs.Linter.LineNumbers
import Linting.Proofs.CommandLine.Stages
import Linting.Proofs.CommandLine.Verdicts
import Linting.Proofs.Containment.Guarding
import Linting.Proofs.Containment.Threads
import Linting.Proofs.Containment.Hooks
import Linting.Proofs.Linter.LineEnds
import Linting.Proofs.Regex.Words
import Linting.Proofs.Linter.Occurrences
import Linting.Proofs.Registry.Patterns
import Linting.Proofs.Document.Boundaries
import Linting.Proofs.Config.Faults
import Linting.Proofs.Glob.Rests
import Linting.Proofs.Files.FilterLaws
import Linting.Proofs.Files.Descent
import Linting.Proofs.Files.Exclusion
import Linting.Proofs.Document.LineStarts
import Linting.Proofs.Runner.FailFast
import Linting.Proofs.Report.HumanLines
import Linting.Proofs.Linter.Saturation
