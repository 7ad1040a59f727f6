import EdgeNode.Agent
import EdgeNode.Broker.Adapter
import EdgeNode.Broker.Config
import EdgeNode.Broker.Manager
import EdgeNode.Bytes
import EdgeNode.Calendar
import EdgeNode.Certificate.Chain
import EdgeNode.Certificate.Extensions
import EdgeNode.Certificate.Info
import EdgeNode.Certificate.Name
import EdgeNode.Certificate.ObjectNames
import EdgeNode.Certificate.Time
import EdgeNode.CommandLine
import EdgeNode.Config
import EdgeNode.Crypto.Curves
import EdgeNode.Crypto.Sha2
import EdgeNode.Decimal.Nearest
import EdgeNode.Decimal.Shortest
import EdgeNode.Defaults
import EdgeNode.Document
import EdgeNode.Duration
import EdgeNode.Encoding.Base32
import EdgeNode.Encoding.Base64
import EdgeNode.Encoding.Der
import EdgeNode.Encoding.Der.Reader
import EdgeNode.Encoding.Hex
import EdgeNode.Encoding.Pem
import EdgeNode.Error
import EdgeNode.Facts
import EdgeNode.Facts.Readings
import EdgeNode.Facts.SystemTexts
import EdgeNode.Files
import EdgeNode.Files.Change
import EdgeNode.Framework
import EdgeNode.Host
import EdgeNode.Json.Printer
import EdgeNode.Json.Reader
import EdgeNode.Json.Value
import EdgeNode.Keyed
import EdgeNode.Keys
import EdgeNode.Launch
import EdgeNode.Logging
import EdgeNode.Main
import EdgeNode.ModeSelection
import EdgeNode.Nkey
import EdgeNode.Node
import EdgeNode.Options
import EdgeNode.Outcome
import EdgeNode.Path
import EdgeNode.Plugins
import EdgeNode.Pool
import EdgeNode.Progress
import EdgeNode.Proofs.Broker.Lifecycle
import EdgeNode.Proofs.Bytes
import EdgeNode.Proofs.Calendar.Dates
import EdgeNode.Proofs.Calendar.Timestamps
import EdgeNode.Proofs.Files
import EdgeNode.Proofs.Paths
import EdgeNode.Proofs.Json.Numbers
import EdgeNode.Proofs.Json.Texts
import EdgeNode.Proofs.Node.Boot
import EdgeNode.Proofs.Node.LeaderParts
import EdgeNode.Proofs.Node.Preparation
import EdgeNode.Proofs.Node.Run
import EdgeNode.Proofs.Pool.Cancellation
import EdgeNode.Proofs.Pool.EarlyEnds
import EdgeNode.Proofs.Pool.Launches
import EdgeNode.Proofs.Pool.Steps
import EdgeNode.Proofs.Pool.Tasks
import EdgeNode.Proofs.Replication.Batches
import EdgeNode.Proofs.Replication.Cursor
import EdgeNode.Proofs.Replication.Delivery
import EdgeNode.Proofs.Replication.Jobs
import EdgeNode.Proofs.Replication.Landing
import EdgeNode.Proofs.Replication.Moves
import EdgeNode.Proofs.Replication.Resync
import EdgeNode.Proofs.Replication.Runs
import EdgeNode.Proofs.Replication.Supervision
import EdgeNode.Proofs.Store.Crashes
import EdgeNode.Proofs.Store.Held
import EdgeNode.Proofs.Store.Newest
import EdgeNode.Proofs.Store.Requests
import EdgeNode.Proofs.Store.Retention
import EdgeNode.Proofs.Store.Routing
import EdgeNode.Proofs.Store.Specs
import EdgeNode.Proofs.Store.Stream
import EdgeNode.Proofs.Topology.Concurrent
import EdgeNode.Replication.Copy
import EdgeNode.Replication.Cursor
import EdgeNode.Replication.Job
import EdgeNode.Replication.Supervisor
import EdgeNode.Replication.Topology
import EdgeNode.Reset
import EdgeNode.Retry
import EdgeNode.Role
import EdgeNode.RuntimePaths
import EdgeNode.Schedule
import EdgeNode.Server
import EdgeNode.Shutdown
import EdgeNode.Store.Basic
import EdgeNode.Store.Bus
import EdgeNode.Store.Spec
import EdgeNode.Store.Stream
import EdgeNode.Subject
import EdgeNode.Text.Blank
import EdgeNode.Text.Split
import EdgeNode.Text.Units
import EdgeNode.Token
import EdgeNode.Topology
import EdgeNode.Topology.Link
import EdgeNode.Topology.Provision
import EdgeNode.Proofs.Files.Ways
import EdgeNode.Proofs.Files.Removal
import EdgeNode.Proofs.Reset
import EdgeNode.Proofs.Broker.Adapter
import EdgeNode.Proofs.Broker.Registration
import EdgeNode.Proofs.Broker.Startup
import EdgeNode.Proofs.Node.Credentials
import EdgeNode.Proofs.Subjects
import EdgeNode.Proofs.Subjects.Below
import EdgeNode.Proofs.Store.Captured
import EdgeNode.Proofs.Replication.Rewrites
import EdgeNode.Proofs.Topology.Standard
import EdgeNode.Proofs.Replication.Validation
import EdgeNode.Proofs.Replication.CursorPaths
import EdgeNode.Proofs.Topology.Attempts
import EdgeNode.Proofs.Topology.Retried
import EdgeNode.Proofs.Tables
import EdgeNode.Proofs.Texts
import EdgeNode.Proofs.Configuration
import EdgeNode.Proofs.Retry
import EdgeNode.Proofs.ResetReport
import EdgeNode.Proofs.Plugins
import EdgeNode.Proofs.Encoding.Hex
import EdgeNode.Proofs.SigningKey
import EdgeNode.Proofs.Readiness
import EdgeNode.Proofs.Replication.Stopping
