import SampleForge.Benchmark.Duration
import SampleForge.Benchmark.Error
import SampleForge.Benchmark.Passes
import SampleForge.Benchmark.Run
import SampleForge.Benchmark.SampleSearch
import SampleForge.Benchmark.Timing
import SampleForge.CommandLine.Flags
import SampleForge.CommandLine.Invocation
import SampleForge.CommandLine.Scanner
import SampleForge.CommandLine.Usage
import SampleForge.Corpus.Reader
import SampleForge.Corpus.Writer
import SampleForge.Expr.Basic
import SampleForge.Expr.Growth
import SampleForge.Files.Access
import SampleForge.Files.Directories
import SampleForge.Files.OsError
import SampleForge.Files.Path
import SampleForge.Files.Resolution
import SampleForge.Files.Store
import SampleForge.Generation.Request
import SampleForge.Generation.Run
import SampleForge.Machine.Basic
import SampleForge.Machine.Executable
import SampleForge.Machine.Search
import SampleForge.Main
import SampleForge.Numeric.Binary64
import SampleForge.Numeric.DecimalReading
import SampleForge.Numeric.Shortest
import SampleForge.Numeric.Written
import SampleForge.Program.Failure
import SampleForge.Program.Run
import SampleForge.Proofs.Numeric.Dyadic
import SampleForge.Random.ChaCha
import SampleForge.Random.Source
import SampleForge.Sample
import SampleForge.Settings.Document
import SampleForge.Settings.Scalar
import SampleForge.Settings.Sections
import SampleForge.Settings.Value
import SampleForge.Shell.Command
import SampleForge.Shell.Expansion
import SampleForge.Shell.Pattern
import SampleForge.Shell.Reader
import SampleForge.Shell.Run
import SampleForge.Shell.Token
import SampleForge.Text.Blank
import SampleForge.Text.Lines
import SampleForge.Text.Numeral
import SampleForge.Text.Quoted
import SampleForge.Proofs.Corpus.HeaderReading
import SampleForge.Proofs.Text.LineCutting
import SampleForge.Proofs.Text.Trimming
import SampleForge.Proofs.Corpus.Parts
import SampleForge.Proofs.Corpus.Reading
import SampleForge.Proofs.Expr.Rendering
import SampleForge.Proofs.Expr.Flattening
import SampleForge.Proofs.Corpus.Written
import SampleForge.Proofs.Corpus.RoundTrip
import SampleForge.Proofs.Expr.Growing
import SampleForge.Proofs.Expr.Language
import SampleForge.Proofs.Benchmark.Calls
import SampleForge.Proofs.Corpus.BlankParts
import SampleForge.Proofs.Files.Walking
import SampleForge.Proofs.Files.Writing
import SampleForge.Proofs.Files.Joining
import SampleForge.Proofs.Generation.Names
import SampleForge.Proofs.Generation.Samples
import SampleForge.Proofs.Generation.Plan
import SampleForge.Proofs.Machine.Performing
import SampleForge.Proofs.Generation.FilesLeft
import SampleForge.Proofs.Program.Verifying
import SampleForge.Proofs.Files.EntryPaths
import SampleForge.Proofs.Text.ByteOrder
import SampleForge.Proofs.Benchmark.FoundSamples
import SampleForge.Proofs.Benchmark.Outcome
import SampleForge.Proofs.Files.Keeping
import SampleForge.Proofs.Generation.NameOrder
import SampleForge.Proofs.Benchmark.GeneratedSamples
import SampleForge.Proofs.CommandLine.Limits
import SampleForge.Proofs.Text.RawLines
import SampleForge.Proofs.Corpus.Acceptance
import SampleForge.Proofs.Corpus.Rewritten
import SampleForge.Proofs.Corpus.Edits
import SampleForge.Proofs.Corpus.Truncated
import SampleForge.Proofs.Generation.Attempts
import SampleForge.Proofs.Generation.DepthBounds
import SampleForge.Proofs.Generation.Parentheses
import SampleForge.Proofs.Benchmark.SearchLaws
import SampleForge.Proofs.Benchmark.Requests
import SampleForge.Proofs.Generation.LargerCounts
import SampleForge.Proofs.Expr.Requests
import SampleForge.Proofs.Generation.Sizes
import SampleForge.Proofs.Generation.EmptyRange
import SampleForge.Proofs.CommandLine.Arguments
import SampleForge.Proofs.CommandLine.Reading
import SampleForge.Proofs.Settings.Keys
import SampleForge.Proofs.Program.Precedence
import SampleForge.Proofs.Benchmark.Totals
import SampleForge.Proofs.Generation.DrawOrder
import SampleForge.Proofs.Generation.CountLimit
