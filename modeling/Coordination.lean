import Coordination.Background.Delivery
import Coordination.Background.Event
import Coordination.Background.Executor
import Coordination.Background.Job
import Coordination.Background.Mode
import Coordination.Background.Processor
import Coordination.Batch
import Coordination.Client.Basic
import Coordination.Client.Config
import Coordination.Client.Ensurer
import Coordination.Client.Link
import Coordination.Duration
import Coordination.Failure
import Coordination.Namespace
import Coordination.Operation
import Coordination.Path
import Coordination.Proofs.Background.Agreement
import Coordination.Proofs.Background.Chronicle
import Coordination.Proofs.Background.Closing
import Coordination.Proofs.Background.Completions
import Coordination.Proofs.Background.Constancy
import Coordination.Proofs.Background.Course
import Coordination.Proofs.Background.Custody
import Coordination.Proofs.Background.Deaths
import Coordination.Proofs.Background.ExactlyOnce
import Coordination.Proofs.Background.Fates
import Coordination.Proofs.Background.Hearing
import Coordination.Proofs.Background.Interleaving
import Coordination.Proofs.Background.Items
import Coordination.Proofs.Background.Mirroring
import Coordination.Proofs.Background.Misfits
import Coordination.Proofs.Background.Overdue
import Coordination.Proofs.Background.Quiet
import Coordination.Proofs.Background.Rejections
import Coordination.Proofs.Background.Repeats
import Coordination.Proofs.Background.Routing
import Coordination.Proofs.Background.Scheduling
import Coordination.Proofs.Background.TaskThreads
import Coordination.Proofs.Background.Turns
import Coordination.Proofs.Background.Waiting
import Coordination.Proofs.Background.Whereabouts
import Coordination.Proofs.Background.Workers
import Coordination.Proofs.Client.Alike
import Coordination.Proofs.Client.Building
import Coordination.Proofs.Client.Containment
import Coordination.Proofs.Client.Creates
import Coordination.Proofs.Client.Descents
import Coordination.Proofs.Client.Ensuring
import Coordination.Proofs.Client.Losses
import Coordination.Proofs.Client.Matching
import Coordination.Proofs.Client.Operations
import Coordination.Proofs.Client.Outcomes
import Coordination.Proofs.Client.Preparation
import Coordination.Proofs.Client.Repeats
import Coordination.Proofs.Client.Returning
import Coordination.Proofs.Client.Setbacks
import Coordination.Proofs.Client.Tasks
import Coordination.Proofs.Client.Tenants
import Coordination.Proofs.Client.Transactions
import Coordination.Proofs.Client.Transparency
import Coordination.Proofs.Client.Ways
import Coordination.Proofs.Path.Embedding
import Coordination.Proofs.Path.Grammar
import Coordination.Proofs.Path.Segments
import Coordination.Proofs.Path.Spaces
import Coordination.Proofs.Retry.Backoffs
import Coordination.Proofs.Retry.Courses
import Coordination.Proofs.Retry.Parallel
import Coordination.Proofs.Retry.Returning
import Coordination.Proofs.Schema.Anchoring
import Coordination.Proofs.Schema.Conformance
import Coordination.Proofs.Schema.Files
import Coordination.Proofs.Schema.Writing
import Coordination.Proofs.Store.Answers
import Coordination.Proofs.Store.Approaches
import Coordination.Proofs.Store.Batches
import Coordination.Proofs.Store.Chronology
import Coordination.Proofs.Store.Echoes
import Coordination.Proofs.Store.Effects
import Coordination.Proofs.Store.Exchanges
import Coordination.Proofs.Store.Expiry
import Coordination.Proofs.Store.Faults
import Coordination.Proofs.Store.Identities
import Coordination.Proofs.Store.Independence
import Coordination.Proofs.Store.Nodes
import Coordination.Proofs.Store.Occupancy
import Coordination.Proofs.Store.Payloads
import Coordination.Proofs.Store.Permissions
import Coordination.Proofs.Store.Reach
import Coordination.Proofs.Store.Reaping
import Coordination.Proofs.Store.Sequence
import Coordination.Proofs.Store.Sessions
import Coordination.Proofs.Store.WellFormed
import Coordination.Proofs.Text.ByteOrder
import Coordination.Retry.Loop
import Coordination.Retry.Policy
import Coordination.Retry.Replay
import Coordination.Schema.Basic
import Coordination.Schema.Definition
import Coordination.Schema.Matcher
import Coordination.Schema.Rule
import Coordination.Schema.Set
import Coordination.Schema.Violation
import Coordination.Simulation.Attempt
import Coordination.Simulation.Call
import Coordination.Simulation.Command
import Coordination.Simulation.Delivering
import Coordination.Simulation.Scenario
import Coordination.Simulation.Schedule
import Coordination.Simulation.World
import Coordination.Store.Access
import Coordination.Store.Answer
import Coordination.Store.Basic
import Coordination.Store.ErrorCode
import Coordination.Store.Request
import Coordination.Store.Stat
import Coordination.Store.Survey
import Coordination.Store.Tree
import Coordination.Store.Written
import Coordination.Text.Decimal
import Coordination.Text.Json.Basic
import Coordination.Text.Json.Fields
import Coordination.Text.Json.Printer
import Coordination.Text.Json.Reader
import Coordination.Text.Json.Token
import Coordination.Text.Json.Value
import Coordination.Text.Quoted
import Coordination.Text.Record
import Coordination.Text.Regex.Basic
import Coordination.Text.Regex.Compile
import Coordination.Text.Regex.Reader
import Coordination.Text.Regex.Simple
import Coordination.Text.Regex.Size
import Coordination.Text.Regex.Syntax
import Coordination.Text.Unicode.Age
import Coordination.Text.Unicode.Break
import Coordination.Text.Unicode.Category
import Coordination.Text.Unicode.CodeSet
import Coordination.Text.Unicode.Derived
import Coordination.Text.Unicode.Folding
import Coordination.Text.Unicode.Lookup
import Coordination.Text.Unicode.Property
import Coordination.Text.Unicode.Repertoire
import Coordination.Text.Unicode.Script
import Coordination.Text.Unicode.ScriptExtension
import Coordination.Text.Utf8
