import WorkspaceAccess.Access.Binding
import WorkspaceAccess.Access.Metrics
import WorkspaceAccess.Access.Roster
import WorkspaceAccess.Access.Sweep
import WorkspaceAccess.Annotations
import WorkspaceAccess.Api.Collection
import WorkspaceAccess.Api.Exchange
import WorkspaceAccess.Api.Refusal
import WorkspaceAccess.Api.Request
import WorkspaceAccess.Backoff
import WorkspaceAccess.Certificate.Basic
import WorkspaceAccess.Certificate.Pem
import WorkspaceAccess.CommandLine.Address
import WorkspaceAccess.CommandLine.Length
import WorkspaceAccess.CommandLine.LogFilter
import WorkspaceAccess.CommandLine.Number
import WorkspaceAccess.CommandLine.Setting
import WorkspaceAccess.CommandLine.Settings
import WorkspaceAccess.CommandLine.Setup
import WorkspaceAccess.Index.Project
import WorkspaceAccess.Index.Staff
import WorkspaceAccess.Index.Watch
import WorkspaceAccess.Json.Basic
import WorkspaceAccess.Json.Decode
import WorkspaceAccess.Json.Number
import WorkspaceAccess.Json.Printer
import WorkspaceAccess.Json.Reader
import WorkspaceAccess.KeyOrder
import WorkspaceAccess.Local.Api
import WorkspaceAccess.Local.Store
import WorkspaceAccess.Main
import WorkspaceAccess.Metrics.Exposition
import WorkspaceAccess.Metrics.Histogram
import WorkspaceAccess.Number.Double
import WorkspaceAccess.Number.Shortest
import WorkspaceAccess.Object.ClusterRoleBinding
import WorkspaceAccess.Object.Config
import WorkspaceAccess.Object.Identity
import WorkspaceAccess.Object.Kind
import WorkspaceAccess.Object.Meta
import WorkspaceAccess.Object.Project
import WorkspaceAccess.Object.StaffMember
import WorkspaceAccess.Object.Workspace
import WorkspaceAccess.Proofs.Access.Aborted
import WorkspaceAccess.Proofs.Access.Absorption
import WorkspaceAccess.Proofs.Access.Accounting
import WorkspaceAccess.Proofs.Access.Canonical
import WorkspaceAccess.Proofs.Access.Conservation
import WorkspaceAccess.Proofs.Access.Convergence
import WorkspaceAccess.Proofs.Access.Coverage
import WorkspaceAccess.Proofs.Access.FullRebuild
import WorkspaceAccess.Proofs.Access.Leg
import WorkspaceAccess.Proofs.Access.Overlap
import WorkspaceAccess.Proofs.Access.Reading
import WorkspaceAccess.Proofs.Access.Rebuild
import WorkspaceAccess.Proofs.Access.Roster
import WorkspaceAccess.Proofs.Access.Rounds
import WorkspaceAccess.Proofs.Access.Snapshot
import WorkspaceAccess.Proofs.Access.Suppression
import WorkspaceAccess.Proofs.Api.Transcript
import WorkspaceAccess.Proofs.Deployment.Agreement
import WorkspaceAccess.Proofs.Deployment.Attendance
import WorkspaceAccess.Proofs.Deployment.Crew
import WorkspaceAccess.Proofs.Deployment.Readiness
import WorkspaceAccess.Proofs.Deployment.Records
import WorkspaceAccess.Proofs.Deployment.Simulation
import WorkspaceAccess.Proofs.Deployment.Team
import WorkspaceAccess.Proofs.Deployment.TimeBudget
import WorkspaceAccess.Proofs.Deployment.Watched
import WorkspaceAccess.Proofs.Index.FanOut
import WorkspaceAccess.Proofs.Index.Project
import WorkspaceAccess.Proofs.Json.RoundTrip
import WorkspaceAccess.Proofs.Json.Tidy
import WorkspaceAccess.Proofs.Object.NormalForm
import WorkspaceAccess.Proofs.Object.Wire
import WorkspaceAccess.Proofs.Queue.Backoff
import WorkspaceAccess.Proofs.Queue.Course
import WorkspaceAccess.Proofs.Queue.Dispatch
import WorkspaceAccess.Proofs.Queue.Exclusion
import WorkspaceAccess.Proofs.Queue.FailureCount
import WorkspaceAccess.Proofs.Queue.History
import WorkspaceAccess.Proofs.Queue.Metrics
import WorkspaceAccess.Proofs.Queue.Prompt
import WorkspaceAccess.Proofs.Queue.Punctual
import WorkspaceAccess.Proofs.Queue.Retry
import WorkspaceAccess.Proofs.Queue.RetryTiming
import WorkspaceAccess.Proofs.Queue.Shutdown
import WorkspaceAccess.Proofs.Queue.Standing
import WorkspaceAccess.Proofs.Queue.Wakeup
import WorkspaceAccess.Proofs.Reconcile.Inspection
import WorkspaceAccess.Proofs.Reconcile.Interplay
import WorkspaceAccess.Proofs.Reconcile.Passage
import WorkspaceAccess.Proofs.Reconcile.Story
import WorkspaceAccess.Proofs.Reconcile.Turn
import WorkspaceAccess.Proofs.Remote.Address
import WorkspaceAccess.Proofs.Remote.Attempts
import WorkspaceAccess.Proofs.Remote.Creation
import WorkspaceAccess.Proofs.Remote.FaultFree
import WorkspaceAccess.Proofs.Remote.InMemory
import WorkspaceAccess.Proofs.Remote.LogicalCluster
import WorkspaceAccess.Proofs.Remote.NoLostUpdate
import WorkspaceAccess.Proofs.Remote.PlainServer
import WorkspaceAccess.Proofs.Remote.Protocol
import WorkspaceAccess.Proofs.Remote.Retarget
import WorkspaceAccess.Proofs.Text.Trim
import WorkspaceAccess.Proofs.Time.Timestamp
import WorkspaceAccess.Proofs.Workspace.FixedPoint
import WorkspaceAccess.Proofs.Workspace.Footprint
import WorkspaceAccess.Proofs.Workspace.Label
import WorkspaceAccess.Proofs.Workspace.Naming
import WorkspaceAccess.Proofs.Workspace.Ownership
import WorkspaceAccess.Proofs.Workspace.Provisioning
import WorkspaceAccess.Proofs.Workspace.Recovery
import WorkspaceAccess.Queue.Alarms
import WorkspaceAccess.Queue.Bookkeeping
import WorkspaceAccess.Queue.Controller
import WorkspaceAccess.Queue.Metrics
import WorkspaceAccess.Queue.Outcome
import WorkspaceAccess.Queue.Wheel
import WorkspaceAccess.Reconcile.Activity
import WorkspaceAccess.Reconcile.Call
import WorkspaceAccess.Reconcile.Exchange
import WorkspaceAccess.Reconcile.Progress
import WorkspaceAccess.Reconcile.World
import WorkspaceAccess.Remote.ClusterUrl
import WorkspaceAccess.Remote.Config
import WorkspaceAccess.Remote.Connector
import WorkspaceAccess.Remote.Credentials
import WorkspaceAccess.Remote.Error
import WorkspaceAccess.Remote.InMemory
import WorkspaceAccess.Remote.Kubeconfig
import WorkspaceAccess.Remote.Session
import WorkspaceAccess.ResourceId
import WorkspaceAccess.Simulation.Crew
import WorkspaceAccess.Simulation.Deployment
import WorkspaceAccess.Simulation.Rehearsal
import WorkspaceAccess.Simulation.Timeline
import WorkspaceAccess.Simulation.WatchedWorld
import WorkspaceAccess.SortedMap
import WorkspaceAccess.SyncStatus
import WorkspaceAccess.Text.Alphabetic
import WorkspaceAccess.Text.Alphanumeric
import WorkspaceAccess.Text.Base64
import WorkspaceAccess.Text.Blank
import WorkspaceAccess.Text.Cut
import WorkspaceAccess.Text.Decimal
import WorkspaceAccess.Text.Form
import WorkspaceAccess.Text.Hexadecimal
import WorkspaceAccess.Text.Parts
import WorkspaceAccess.Text.Quoted
import WorkspaceAccess.Text.Unprintable
import WorkspaceAccess.Text.Utf8
import WorkspaceAccess.Time.Civil
import WorkspaceAccess.Time.Instant
import WorkspaceAccess.Time.Span
import WorkspaceAccess.Time.Timestamp
import WorkspaceAccess.Trigger
import WorkspaceAccess.Uri
import WorkspaceAccess.Workspace.Info
import WorkspaceAccess.Workspace.Lifecycle
import WorkspaceAccess.Workspace.Name
import WorkspaceAccess.Workspace.Phase
import WorkspaceAccess.Yaml.Alias
import WorkspaceAccess.Yaml.BlockScalar
import WorkspaceAccess.Yaml.Document
import WorkspaceAccess.Yaml.Lexer
import WorkspaceAccess.Yaml.Meaning
import WorkspaceAccess.Yaml.Node
import WorkspaceAccess.Yaml.Number
import WorkspaceAccess.Yaml.Place
import WorkspaceAccess.Yaml.Record
import WorkspaceAccess.Yaml.Scalar
import WorkspaceAccess.Yaml.Tag
import WorkspaceAccess.Yaml.Token
import WorkspaceAccess.Yaml.Tree
