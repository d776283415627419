import IndexSync.Action
import IndexSync.Activation.Basic
import IndexSync.Activation.Jobs
import IndexSync.Activation.Result
import IndexSync.Cli.Basic
import IndexSync.Cli.Colour
import IndexSync.Cli.Command
import IndexSync.Cli.Markup
import IndexSync.Cli.Options
import IndexSync.Cli.Pictograph
import IndexSync.Cli.Screen
import IndexSync.Cli.Similar
import IndexSync.Cli.Style
import IndexSync.Config.Basic
import IndexSync.Config.Check
import IndexSync.Config.File
import IndexSync.Config.Numeral
import IndexSync.Config.Violation
import IndexSync.Decimal.Double
import IndexSync.Decimal.Layout
import IndexSync.Decimal.Power
import IndexSync.Decimal.Read
import IndexSync.Decimal.Shortest
import IndexSync.Decision
import IndexSync.Disk
import IndexSync.Dispatch
import IndexSync.Errno
import IndexSync.Event
import IndexSync.Failure
import IndexSync.FsPath
import IndexSync.Git
import IndexSync.Glob
import IndexSync.Host.Basic
import IndexSync.Host.Command
import IndexSync.Host.Processes
import IndexSync.Host.Resolve
import IndexSync.Json.Error
import IndexSync.Json.Printer
import IndexSync.Json.Reader
import IndexSync.Literal.Fault
import IndexSync.Literal.Reader
import IndexSync.Literal.Token
import IndexSync.Main
import IndexSync.PathKey
import IndexSync.Pattern
import IndexSync.Poll
import IndexSync.Project
import IndexSync.Proofs.Activation.Course
import IndexSync.Proofs.Activation.Failing
import IndexSync.Proofs.Activation.Guard
import IndexSync.Proofs.Activation.Pacing
import IndexSync.Proofs.Activation.Reconciliation
import IndexSync.Proofs.Activation.Rules
import IndexSync.Proofs.Activation.Unanswered
import IndexSync.Proofs.Carriage
import IndexSync.Proofs.Configuration.Failures
import IndexSync.Proofs.Configuration.Loading
import IndexSync.Proofs.Configuration.Lookup
import IndexSync.Proofs.Configuration.Rediscovery
import IndexSync.Proofs.Configuration.RoundTrip
import IndexSync.Proofs.Configuration.Settled
import IndexSync.Proofs.Console.Outcome
import IndexSync.Proofs.Console.Rendering
import IndexSync.Proofs.Console.Rows
import IndexSync.Proofs.Console.Signs
import IndexSync.Proofs.Console.StatusLine
import IndexSync.Proofs.Copies
import IndexSync.Proofs.Delay
import IndexSync.Proofs.Dialogue
import IndexSync.Proofs.Digits
import IndexSync.Proofs.Documents.Encoding
import IndexSync.Proofs.Documents.Escapes
import IndexSync.Proofs.Documents.Image
import IndexSync.Proofs.Documents.Numerals
import IndexSync.Proofs.Documents.RoundTrip
import IndexSync.Proofs.Evidence
import IndexSync.Proofs.Fetching
import IndexSync.Proofs.Indifference
import IndexSync.Proofs.Interleaving.Attendance
import IndexSync.Proofs.Interleaving.Attribution
import IndexSync.Proofs.Interleaving.Basic
import IndexSync.Proofs.Interleaving.Claims
import IndexSync.Proofs.Interleaving.Convergence
import IndexSync.Proofs.Interleaving.Course
import IndexSync.Proofs.Interleaving.Delivery
import IndexSync.Proofs.Interleaving.Dispatching
import IndexSync.Proofs.Interleaving.Echo
import IndexSync.Proofs.Interleaving.Ending
import IndexSync.Proofs.Interleaving.Errands
import IndexSync.Proofs.Interleaving.History
import IndexSync.Proofs.Interleaving.Isolation
import IndexSync.Proofs.Interleaving.Line
import IndexSync.Proofs.Interleaving.Pacing
import IndexSync.Proofs.Interleaving.Playing
import IndexSync.Proofs.Interleaving.Registration
import IndexSync.Proofs.Interleaving.Shift
import IndexSync.Proofs.Interleaving.Spelling
import IndexSync.Proofs.Interleaving.Staging
import IndexSync.Proofs.Interleaving.Verdict
import IndexSync.Proofs.Interleaving.Wire
import IndexSync.Proofs.Keys.CanonicalForm
import IndexSync.Proofs.Keys.Equivalence
import IndexSync.Proofs.Keys.Segments
import IndexSync.Proofs.Keys.Spellings
import IndexSync.Proofs.Keys.Suffixes
import IndexSync.Proofs.LowerCase
import IndexSync.Proofs.NearMisses
import IndexSync.Proofs.PathText
import IndexSync.Proofs.Polling
import IndexSync.Proofs.Replies
import IndexSync.Proofs.Search.Answers
import IndexSync.Proofs.Search.Links
import IndexSync.Proofs.Search.Location
import IndexSync.Proofs.Search.Manifests
import IndexSync.Proofs.Search.Nearest
import IndexSync.Proofs.Search.Reordering
import IndexSync.Proofs.Search.Selection
import IndexSync.Proofs.Service.Failures
import IndexSync.Proofs.Service.OneProcess
import IndexSync.Proofs.Service.Stages
import IndexSync.Proofs.Storage.Files
import IndexSync.Proofs.Storage.Nesting
import IndexSync.Proofs.Storage.Probing
import IndexSync.Proofs.Storage.Rewriting
import IndexSync.Proofs.Storage.Walk
import IndexSync.Proofs.Tasks
import IndexSync.Proofs.Transport
import IndexSync.Proofs.Trouble
import IndexSync.Proofs.Validation
import IndexSync.Proofs.VersionControl.Fingerprints
import IndexSync.Proofs.VersionControl.Settings
import IndexSync.Registry.Query
import IndexSync.Registry.Record
import IndexSync.Rpc.Channel
import IndexSync.Rpc.Remote
import IndexSync.Rpc.Response
import IndexSync.Scene
import IndexSync.Script
import IndexSync.Service
import IndexSync.Session
import IndexSync.Sha256
import IndexSync.Socket
import IndexSync.Staleness
import IndexSync.Task.Job
import IndexSync.Task.Pool
import IndexSync.Task.Program
import IndexSync.Task.Roster
import IndexSync.Task.Work
import IndexSync.Text.Blank
import IndexSync.Text.Cells
import IndexSync.Text.Digit
import IndexSync.Text.Fields
import IndexSync.Text.LetterCase
import IndexSync.Text.Lower
import IndexSync.Text.Numeral
import IndexSync.Text.Printable
import IndexSync.Text.Quoted
import IndexSync.Text.Ranges
import IndexSync.Text.Unpaired
import IndexSync.Text.Utf8
import IndexSync.Text.Word
import IndexSync.Value
import IndexSync.World
