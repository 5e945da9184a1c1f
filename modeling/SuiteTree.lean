import SuiteTree.Ambient
import SuiteTree.Builtin
import SuiteTree.Builtin.Directories
import SuiteTree.Builtin.Fixtures
import SuiteTree.Builtin.Lifecycle
import SuiteTree.Builtin.Sample
import SuiteTree.Category
import SuiteTree.Check
import SuiteTree.CommandLine
import SuiteTree.CommandLine.Help
import SuiteTree.CommandLine.Matches
import SuiteTree.CommandLine.Parameter
import SuiteTree.DataFiles
import SuiteTree.Duration
import SuiteTree.Error
import SuiteTree.Failure
import SuiteTree.Files
import SuiteTree.Hook
import SuiteTree.Log
import SuiteTree.LogFile
import SuiteTree.Main
import SuiteTree.Number.Binary
import SuiteTree.Number.Layout
import SuiteTree.Number.Shortest
import SuiteTree.Number.Tolerance
import SuiteTree.Options
import SuiteTree.Path
import SuiteTree.Path.Fragment
import SuiteTree.Proofs.Arena
import SuiteTree.Proofs.Files
import SuiteTree.Proofs.Report.Printout
import SuiteTree.Proofs.Report.Reading
import SuiteTree.Proofs.Report.Shown
import SuiteTree.Proofs.Report.Walk
import SuiteTree.Proofs.Run.Accounts
import SuiteTree.Proofs.Run.Answers
import SuiteTree.Proofs.Run.Attributes
import SuiteTree.Proofs.Run.Chain
import SuiteTree.Proofs.Run.Course
import SuiteTree.Proofs.Run.Emission
import SuiteTree.Proofs.Run.Entering
import SuiteTree.Proofs.Run.FileFree
import SuiteTree.Proofs.Run.Frame
import SuiteTree.Proofs.Run.Holding
import SuiteTree.Proofs.Run.Isolation
import SuiteTree.Proofs.Run.Lockstep
import SuiteTree.Proofs.Run.Matching
import SuiteTree.Proofs.Run.Mirror
import SuiteTree.Proofs.Run.Observation
import SuiteTree.Proofs.Run.Passage
import SuiteTree.Proofs.Run.Renewal
import SuiteTree.Proofs.Run.Replay
import SuiteTree.Proofs.Run.Schedule
import SuiteTree.Proofs.Run.Scope
import SuiteTree.Proofs.Run.Script
import SuiteTree.Proofs.Run.Settled
import SuiteTree.Proofs.Run.Shortening
import SuiteTree.Proofs.Run.Stages
import SuiteTree.Proofs.Suite.Execute
import SuiteTree.Proofs.Suite.Listing
import SuiteTree.Proofs.Suite.Printing
import SuiteTree.Proofs.Suite.Pruning
import SuiteTree.Proofs.Suite.Redirection
import SuiteTree.Proofs.Suite.Selecting
import SuiteTree.Proofs.Suite.Shortening
import SuiteTree.Proofs.Suite.Thinning
import SuiteTree.Proofs.Suite.Verdict
import SuiteTree.Proofs.Tree.Failures
import SuiteTree.Proofs.Tree.Pristine
import SuiteTree.Proofs.Tree.Reachable
import SuiteTree.Proofs.Tree.Rehooked
import SuiteTree.Proofs.Tree.Renaming
import SuiteTree.Proofs.Tree.ReportOrder
import SuiteTree.Proofs.Tree.Separation
import SuiteTree.Proofs.Tree.WellFormed
import SuiteTree.Report
import SuiteTree.Report.Text
import SuiteTree.Report.View
import SuiteTree.Report.Xml
import SuiteTree.Run
import SuiteTree.Runner
import SuiteTree.Selection
import SuiteTree.Session
import SuiteTree.Settings
import SuiteTree.Settings.Document
import SuiteTree.Settings.Hjson
import SuiteTree.Settings.Ini
import SuiteTree.Settings.Json
import SuiteTree.Settings.Json.Number
import SuiteTree.Settings.Json.Text
import SuiteTree.Settings.Load
import SuiteTree.Settings.Scan
import SuiteTree.Settings.Toml
import SuiteTree.Settings.Toml.Moment
import SuiteTree.Settings.Toml.Number
import SuiteTree.Settings.Toml.Part
import SuiteTree.Settings.Toml.Text
import SuiteTree.Settings.Yaml
import SuiteTree.Settings.Yaml.Cursor
import SuiteTree.Settings.Yaml.Scalar
import SuiteTree.Settings.Yaml.Tag
import SuiteTree.Settings.Yaml.Text
import SuiteTree.Settings.Yaml.Token
import SuiteTree.Sink
import SuiteTree.Suite
import SuiteTree.Text.Casing
import SuiteTree.Text.Combining
import SuiteTree.Text.Escape
import SuiteTree.Text.Invisible
import SuiteTree.Text.Lower
import SuiteTree.Text.Quoted
import SuiteTree.Text.Ranges
import SuiteTree.Text.WhiteSpace
import SuiteTree.Time.Calendar
import SuiteTree.Time.Clock
import SuiteTree.Time.Elapsed
import SuiteTree.Tree
import SuiteTree.Tree.Forest
import SuiteTree.Tree.Outline
import SuiteTree.Value
import SuiteTree.World
import SuiteTree.Proofs.Tree.PruneOrder
import SuiteTree.Proofs.Tree.DataDirs
import SuiteTree.Proofs.Run.DataFiles
import SuiteTree.Proofs.Path.Components
import SuiteTree.Proofs.Path.TemporaryFiles
import SuiteTree.Proofs.Number.Distance
import SuiteTree.Proofs.Number.Exponent
import SuiteTree.Proofs.Run.Composition
import SuiteTree.Proofs.Run.Procedure
import SuiteTree.Proofs.Run.Tolerance
import SuiteTree.Proofs.Text.Escaping
