import Alerting.Alert
import Alerting.Alert.Json
import Alerting.Blank
import Alerting.Buffer
import Alerting.Buffer.Shared
import Alerting.Bytes
import Alerting.Calendar
import Alerting.Checkpoint
import Alerting.Checkpoint.Document
import Alerting.Checkpoint.Json
import Alerting.Checkpoint.Saving
import Alerting.CommandLine
import Alerting.CommandLine.Help
import Alerting.CommandLine.Level
import Alerting.CommandLine.Reading
import Alerting.Config
import Alerting.Config.Decoding
import Alerting.Config.Loading
import Alerting.Config.Validation
import Alerting.Disk
import Alerting.Emitter
import Alerting.Emitter.Crew
import Alerting.EntityRecord
import Alerting.EntityRecord.Json
import Alerting.Evaluator
import Alerting.FileContent
import Alerting.FileTree
import Alerting.Flush.Frequency
import Alerting.Flush.Outcome
import Alerting.Flush.Progress
import Alerting.Flush.Running
import Alerting.Flush.Schedule
import Alerting.Group
import Alerting.Group.Json
import Alerting.Group.Key
import Alerting.Group.Rules
import Alerting.Grouper
import Alerting.Host
import Alerting.Identity
import Alerting.Identity.Digest
import Alerting.Identity.Encoding
import Alerting.Ingest
import Alerting.Instant
import Alerting.Json.Basic
import Alerting.Json.Literal
import Alerting.Json.Printer
import Alerting.Json.Reader
import Alerting.Json.Record
import Alerting.JsonLines
import Alerting.Main
import Alerting.Metrics
import Alerting.NagInterval
import Alerting.NagInterval.Json
import Alerting.Observation
import Alerting.Observation.Json
import Alerting.Path
import Alerting.Pipeline
import Alerting.Program
import Alerting.Purge
import Alerting.Session
import Alerting.Session.Ending
import Alerting.Session.Event
import Alerting.Session.Run
import Alerting.Session.Running
import Alerting.SettingError
import Alerting.Severity
import Alerting.Sink
import Alerting.SocketAddress
import Alerting.SortedMap
import Alerting.Staleness
import Alerting.Store
import Alerting.Store.Description
import Alerting.Summary
import Alerting.Tags
import Alerting.Terminal.ControlSequence
import Alerting.Terminal.Setting
import Alerting.Terminal.StyledText
import Alerting.Toml.Document
import Alerting.Toml.Number
import Alerting.Toml.Table
import Alerting.Toml.Text
import Alerting.Transition
import Alerting.Transition.Json
import Alerting.Proofs.SortedMap
import Alerting.Proofs.Store.Slot
import Alerting.Proofs.Store.Entity
import Alerting.Proofs.Store.Detection
import Alerting.Proofs.Store.Call
import Alerting.Proofs.Store.OncePerRun
import Alerting.Proofs.Store.Decision
import Alerting.Proofs.Store.History
import Alerting.Proofs.Buffer
import Alerting.Proofs.Config.Validation
import Alerting.Proofs.Evaluator.Batch
import Alerting.Proofs.Evaluator.Cycle
import Alerting.Proofs.Grouper
import Alerting.Proofs.Pipeline.Conservation
import Alerting.Proofs.Buffer.Interleaving
import Alerting.Proofs.Evaluator.Agreement
import Alerting.Proofs.Evaluator.ArrivalOrder
import Alerting.Proofs.Pipeline.Isolation
import Alerting.Proofs.Json.Literal
import Alerting.Proofs.Json.Reader
import Alerting.Proofs.Json.Record
import Alerting.Proofs.Json.Printable
import Alerting.Proofs.Alert.RoundTrip
import Alerting.Proofs.Group.RoundTrip
import Alerting.Proofs.JsonLines
import Alerting.Proofs.FileTree
import Alerting.Proofs.Checkpoint.RoundTrip
import Alerting.Proofs.Checkpoint.Saving
import Alerting.Proofs.Evaluator.Restart
import Alerting.Proofs.Pipeline.Restart
import Alerting.Proofs.Evaluator.Replay
import Alerting.Proofs.Duration
import Alerting.Proofs.Evaluator.Silence
import Alerting.Proofs.Ingest.Line
import Alerting.Proofs.Ingest.Reading
import Alerting.Proofs.Flush.Schedule
import Alerting.Proofs.Session.Start
import Alerting.Proofs.Evaluator.Identity
import Alerting.Proofs.Emitter.Crew
import Alerting.Proofs.Emitter.Shift
import Alerting.Proofs.Flush.Progress
import Alerting.Proofs.Pipeline.Routing
import Alerting.Proofs.Pipeline.Cycle
import Alerting.Proofs.Pipeline.Restore
import Alerting.Proofs.Session.Accounts
import Alerting.Proofs.Session.Completion
import Alerting.Proofs.Session.Delivery
import Alerting.Proofs.Session.Sequential
import Alerting.Proofs.Session.Ending
import Alerting.Proofs.Store.Merge
import Alerting.Proofs.Store.Snapshot
import Alerting.Proofs.Buffer.Contents
import Alerting.Proofs.Flush.Isolation
import Alerting.Proofs.Flush.Running
import Alerting.Proofs.Flush.Punctual
import Alerting.Proofs.Flush.Stop
import Alerting.Proofs.Store.Missing
import Alerting.Proofs.Store.Agreement
import Alerting.Proofs.Store.Forgetting
import Alerting.Proofs.Group.Canonical
import Alerting.Proofs.Identity.Encoding
import Alerting.Proofs.Path
import Alerting.Proofs.Disk
import Alerting.Proofs.Disk.Mirror
import Alerting.Proofs.Checkpoint.Failure
import Alerting.Proofs.Evaluator.Recency
import Alerting.Proofs.Flush.FirstDelay
import Alerting.Proofs.Summary
