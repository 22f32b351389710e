import GeneticRepair.Candidate.Basic
import GeneticRepair.Candidate.Crossover
import GeneticRepair.Candidate.Evaluation
import GeneticRepair.Candidate.Mutation
import GeneticRepair.Candidate.Stepwise
import GeneticRepair.Code.Edit
import GeneticRepair.Code.Header
import GeneticRepair.Code.Label
import GeneticRepair.Code.Lexer
import GeneticRepair.Code.Literal
import GeneticRepair.Code.Node
import GeneticRepair.Code.NodePrinter
import GeneticRepair.Code.NodeReader
import GeneticRepair.Code.Normal
import GeneticRepair.Code.Numeral
import GeneticRepair.Code.OperatorSite
import GeneticRepair.Code.Part
import GeneticRepair.Code.PatternReader
import GeneticRepair.Code.Precedence
import GeneticRepair.Code.Quotation
import GeneticRepair.Code.Reader
import GeneticRepair.Code.Statement
import GeneticRepair.Code.Term
import GeneticRepair.Code.TermPrinter
import GeneticRepair.Code.TermReader
import GeneticRepair.Collection.Entries
import GeneticRepair.Collection.RecentlyUsed
import GeneticRepair.CommandLine.Execution
import GeneticRepair.CommandLine.Options
import GeneticRepair.CommandLine.Request
import GeneticRepair.Concurrency.Thread
import GeneticRepair.Config.Basic
import GeneticRepair.Config.Error
import GeneticRepair.Config.Property
import GeneticRepair.Coverage.Localization
import GeneticRepair.Coverage.Map
import GeneticRepair.Coverage.Metric
import GeneticRepair.Coverage.Spectra
import GeneticRepair.Digest.Sha1
import GeneticRepair.Document.JsonPrinter
import GeneticRepair.Document.JsonReader
import GeneticRepair.Document.Key
import GeneticRepair.Document.Value
import GeneticRepair.Document.YamlPrinter
import GeneticRepair.Document.YamlReader
import GeneticRepair.Document.YamlScalar
import GeneticRepair.Event.Stopwatch
import GeneticRepair.File.Path
import GeneticRepair.File.Tree
import GeneticRepair.Main
import GeneticRepair.Number.Basic
import GeneticRepair.Number.Digits
import GeneticRepair.Number.Quantity
import GeneticRepair.Number.Scalar
import GeneticRepair.Number.Shortest
import GeneticRepair.Proofs.Action
import GeneticRepair.Proofs.Candidate.Alike
import GeneticRepair.Proofs.Candidate.Attempts
import GeneticRepair.Proofs.Candidate.Bounds
import GeneticRepair.Proofs.Candidate.ClassicMutation
import GeneticRepair.Proofs.Candidate.Crossover
import GeneticRepair.Proofs.Candidate.Decision
import GeneticRepair.Proofs.Candidate.Directory
import GeneticRepair.Proofs.Candidate.Evaluation
import GeneticRepair.Proofs.Candidate.Exact
import GeneticRepair.Proofs.Candidate.Fitness
import GeneticRepair.Proofs.Candidate.LineCrossover
import GeneticRepair.Proofs.Candidate.Memo
import GeneticRepair.Proofs.Candidate.Mutation
import GeneticRepair.Proofs.Candidate.Question
import GeneticRepair.Proofs.Candidate.Scoring
import GeneticRepair.Proofs.Candidate.Settling
import GeneticRepair.Proofs.Candidate.Steps
import GeneticRepair.Proofs.Candidate.StructuralCrossover
import GeneticRepair.Proofs.Candidate.Tournament
import GeneticRepair.Proofs.Candidate.Variation
import GeneticRepair.Proofs.Candidate.Verdict
import GeneticRepair.Proofs.Code.Address
import GeneticRepair.Proofs.Code.Advance
import GeneticRepair.Proofs.Code.Conservation
import GeneticRepair.Proofs.Code.Docstrings
import GeneticRepair.Proofs.Code.Donors
import GeneticRepair.Proofs.Code.Edit
import GeneticRepair.Proofs.Code.Headers
import GeneticRepair.Proofs.Code.Index
import GeneticRepair.Proofs.Code.Levels
import GeneticRepair.Proofs.Code.Lexer
import GeneticRepair.Proofs.Code.LocalTidy
import GeneticRepair.Proofs.Code.Mask
import GeneticRepair.Proofs.Code.NodeReader
import GeneticRepair.Proofs.Code.Normal
import GeneticRepair.Proofs.Code.Obtained
import GeneticRepair.Proofs.Code.OperatorSite
import GeneticRepair.Proofs.Code.Place
import GeneticRepair.Proofs.Code.Reader
import GeneticRepair.Proofs.Code.Replacement
import GeneticRepair.Proofs.Code.Shape
import GeneticRepair.Proofs.Code.SourceLines
import GeneticRepair.Proofs.Code.SourceOrder
import GeneticRepair.Proofs.Code.Stripped
import GeneticRepair.Proofs.Code.Target
import GeneticRepair.Proofs.Code.TermReader
import GeneticRepair.Proofs.Code.Transformation
import GeneticRepair.Proofs.Code.Undoing
import GeneticRepair.Proofs.Collection.Entries
import GeneticRepair.Proofs.Collection.RecentlyUsed
import GeneticRepair.Proofs.Collection.Sorted
import GeneticRepair.Proofs.CommandLine.LogFile
import GeneticRepair.Proofs.Concurrency.Thread
import GeneticRepair.Proofs.Config.Accepted
import GeneticRepair.Proofs.Config.Checked
import GeneticRepair.Proofs.Config.Comparison
import GeneticRepair.Proofs.Config.Property
import GeneticRepair.Proofs.Coverage.Canonical
import GeneticRepair.Proofs.Coverage.Localization
import GeneticRepair.Proofs.Coverage.Metric
import GeneticRepair.Proofs.Coverage.Records
import GeneticRepair.Proofs.Coverage.Spectra
import GeneticRepair.Proofs.Event.Stopwatch
import GeneticRepair.Proofs.File.DirectPath
import GeneticRepair.Proofs.File.Growth
import GeneticRepair.Proofs.File.Tree
import GeneticRepair.Proofs.Mirror
import GeneticRepair.Proofs.Number.Comparison
import GeneticRepair.Proofs.Number.Digits
import GeneticRepair.Proofs.Number.Exact
import GeneticRepair.Proofs.Outcome
import GeneticRepair.Proofs.Passage
import GeneticRepair.Proofs.Random
import GeneticRepair.Proofs.Random.Overflow
import GeneticRepair.Proofs.Random.Weighted
import GeneticRepair.Proofs.Search.Baseline
import GeneticRepair.Proofs.Search.Best
import GeneticRepair.Proofs.Search.Breeding
import GeneticRepair.Proofs.Search.Chronicle
import GeneticRepair.Proofs.Search.Counts
import GeneticRepair.Proofs.Search.Course
import GeneticRepair.Proofs.Search.Evaluator
import GeneticRepair.Proofs.Search.Exhaustion
import GeneticRepair.Proofs.Search.Generation
import GeneticRepair.Proofs.Search.Leftovers
import GeneticRepair.Proofs.Search.Pooling
import GeneticRepair.Proofs.Search.Population
import GeneticRepair.Proofs.Search.Protocol
import GeneticRepair.Proofs.Search.Stalled
import GeneticRepair.Proofs.Search.Steps
import GeneticRepair.Proofs.Search.Threads
import GeneticRepair.Proofs.Session.Saving
import GeneticRepair.Proofs.Session.Subscription
import GeneticRepair.Proofs.Strategy.Registry
import GeneticRepair.Proofs.Text.Lines
import GeneticRepair.Proofs.Toolchain.Cached
import GeneticRepair.Proofs.Toolchain.Caching
import GeneticRepair.Proofs.Toolchain.Coherence
import GeneticRepair.Proofs.Toolchain.Collecting
import GeneticRepair.Proofs.Toolchain.Contract
import GeneticRepair.Proofs.Toolchain.Reached
import GeneticRepair.Proofs.Toolchain.Simulation
import GeneticRepair.Proofs.Toolchain.Steady
import GeneticRepair.Proofs.Toolchain.Workspace
import GeneticRepair.Random.MersenneTwister
import GeneticRepair.Random.Source
import GeneticRepair.Search.Event
import GeneticRepair.Search.Genetic
import GeneticRepair.Search.Pool
import GeneticRepair.Search.RecordedEvent
import GeneticRepair.Search.Settings
import GeneticRepair.Session.Basic
import GeneticRepair.Session.Desk
import GeneticRepair.Session.Subscription
import GeneticRepair.Strategy.Basic
import GeneticRepair.Strategy.Reading
import GeneticRepair.Strategy.Registry
import GeneticRepair.Suite.Basic
import GeneticRepair.Text.Blank
import GeneticRepair.Text.CharacterName
import GeneticRepair.Text.CodePointSet
import GeneticRepair.Text.CombiningClass
import GeneticRepair.Text.Compatibility
import GeneticRepair.Text.Composite
import GeneticRepair.Text.Digit
import GeneticRepair.Text.Duration
import GeneticRepair.Text.Identifier
import GeneticRepair.Text.LetterNames
import GeneticRepair.Text.Lines
import GeneticRepair.Text.Matching
import GeneticRepair.Text.Normalization
import GeneticRepair.Text.PictureNames
import GeneticRepair.Text.Printable
import GeneticRepair.Text.Quoted
import GeneticRepair.Text.Search
import GeneticRepair.Text.SymbolNames
import GeneticRepair.Text.Template
import GeneticRepair.Text.UnifiedDiff
import GeneticRepair.Toolchain.Basic
import GeneticRepair.Toolchain.Cached
import GeneticRepair.Toolchain.Process
import GeneticRepair.Toolchain.ProcessSimulation
import GeneticRepair.Toolchain.Simulation
