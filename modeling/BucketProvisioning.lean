import BucketProvisioning.Api.Client
import BucketProvisioning.Api.Recorder
import BucketProvisioning.Api.Rejection
import BucketProvisioning.Api.Reply
import BucketProvisioning.Api.Report
import BucketProvisioning.Api.Request
import BucketProvisioning.Api.Script
import BucketProvisioning.Api.Session
import BucketProvisioning.Backend.InMemory
import BucketProvisioning.Backend.Operation
import BucketProvisioning.Backend.Registry
import BucketProvisioning.Backend.Remote
import BucketProvisioning.Backoff
import BucketProvisioning.Cluster.Edit
import BucketProvisioning.Cluster.Log
import BucketProvisioning.Cluster.Session
import BucketProvisioning.Cluster.State
import BucketProvisioning.CommandLine.Help
import BucketProvisioning.CommandLine.Misuse
import BucketProvisioning.CommandLine.Options
import BucketProvisioning.CommandLine.Reading
import BucketProvisioning.Engine.Desk
import BucketProvisioning.Engine.Feed
import BucketProvisioning.Engine.Happening
import BucketProvisioning.Engine.Move
import BucketProvisioning.Engine.Office
import BucketProvisioning.Engine.Resync
import BucketProvisioning.Engine.Runner
import BucketProvisioning.Engine.Turn
import BucketProvisioning.Engine.Wing
import BucketProvisioning.Event
import BucketProvisioning.Failure
import BucketProvisioning.Json
import BucketProvisioning.Json.Container
import BucketProvisioning.Json.Cursor
import BucketProvisioning.Json.DecodeError
import BucketProvisioning.Json.Decoder
import BucketProvisioning.Json.Numeral
import BucketProvisioning.Json.Parser
import BucketProvisioning.Json.Printer
import BucketProvisioning.Json.Quotation
import BucketProvisioning.Json.Record
import BucketProvisioning.Json.Skipping
import BucketProvisioning.Key
import BucketProvisioning.Leadership.Candidate
import BucketProvisioning.Leadership.Decision
import BucketProvisioning.Leadership.Dialogue
import BucketProvisioning.Leadership.Server
import BucketProvisioning.Leadership.Trial
import BucketProvisioning.Main
import BucketProvisioning.Number.Binary64
import BucketProvisioning.Number.Decimal
import BucketProvisioning.Number.Rounding
import BucketProvisioning.Number.Word
import BucketProvisioning.Operator.Fault
import BucketProvisioning.Operator.Installation
import BucketProvisioning.Operator.Life
import BucketProvisioning.Operator.Plan
import BucketProvisioning.Proofs.Backend.Assembly
import BucketProvisioning.Proofs.Backend.Hosting
import BucketProvisioning.Proofs.Backend.InMemory
import BucketProvisioning.Proofs.Backend.Remembering
import BucketProvisioning.Proofs.Cluster.AccessRetries
import BucketProvisioning.Proofs.Cluster.ClaimRetries
import BucketProvisioning.Proofs.Cluster.Convergence
import BucketProvisioning.Proofs.Cluster.Faults
import BucketProvisioning.Proofs.Cluster.Retrying
import BucketProvisioning.Proofs.Delays
import BucketProvisioning.Proofs.Engine.ApiServer
import BucketProvisioning.Proofs.Engine.Attempts
import BucketProvisioning.Proofs.Engine.Attendance
import BucketProvisioning.Proofs.Engine.Closing
import BucketProvisioning.Proofs.Engine.Course
import BucketProvisioning.Proofs.Engine.Credentials
import BucketProvisioning.Proofs.Engine.Deletion
import BucketProvisioning.Proofs.Engine.Entrusting
import BucketProvisioning.Proofs.Engine.Freshness
import BucketProvisioning.Proofs.Engine.KeyPairs
import BucketProvisioning.Proofs.Engine.Ledger
import BucketProvisioning.Proofs.Engine.Leftovers
import BucketProvisioning.Proofs.Engine.Listing
import BucketProvisioning.Proofs.Engine.Outside
import BucketProvisioning.Proofs.Engine.Plant
import BucketProvisioning.Proofs.Engine.Rehearsal
import BucketProvisioning.Proofs.Engine.Removal
import BucketProvisioning.Proofs.Engine.Reported
import BucketProvisioning.Proofs.Engine.Restart
import BucketProvisioning.Proofs.Engine.Retention
import BucketProvisioning.Proofs.Engine.Revocation
import BucketProvisioning.Proofs.Engine.Site
import BucketProvisioning.Proofs.Engine.Spacing
import BucketProvisioning.Proofs.Engine.Story
import BucketProvisioning.Proofs.Engine.Sufficiency
import BucketProvisioning.Proofs.Engine.Teardown
import BucketProvisioning.Proofs.Engine.Wing
import BucketProvisioning.Proofs.Engine.Withdrawal
import BucketProvisioning.Proofs.Engine.WrittenOnce
import BucketProvisioning.Proofs.History
import BucketProvisioning.Proofs.Json.Merging
import BucketProvisioning.Proofs.Json.Records
import BucketProvisioning.Proofs.Key
import BucketProvisioning.Proofs.Leadership.Contest
import BucketProvisioning.Proofs.Leadership.Exclusion
import BucketProvisioning.Proofs.Leadership.Phases
import BucketProvisioning.Proofs.Leadership.Protection
import BucketProvisioning.Proofs.Leadership.TakeOver
import BucketProvisioning.Proofs.Number.Accuracy
import BucketProvisioning.Proofs.Operator.Course
import BucketProvisioning.Proofs.Operator.Tenure
import BucketProvisioning.Proofs.Queue.Custody
import BucketProvisioning.Proofs.Queue.Delivery
import BucketProvisioning.Proofs.Queue.Floor
import BucketProvisioning.Proofs.Queue.Keys
import BucketProvisioning.Proofs.Queue.Timing
import BucketProvisioning.Proofs.Queue.Waking
import BucketProvisioning.Proofs.Reconcile.AccessConduct
import BucketProvisioning.Proofs.Reconcile.Atomicity
import BucketProvisioning.Proofs.Reconcile.ClaimConduct
import BucketProvisioning.Proofs.Reconcile.Conduct
import BucketProvisioning.Proofs.Reconcile.Discretion
import BucketProvisioning.Proofs.Reconcile.Ensures
import BucketProvisioning.Proofs.Reconcile.Exits
import BucketProvisioning.Proofs.Reconcile.Judging
import BucketProvisioning.Proofs.Reconcile.Records
import BucketProvisioning.Proofs.Reconcile.Resumption
import BucketProvisioning.Proofs.Reconcile.Soberness
import BucketProvisioning.Proofs.Reconcile.Sufficiency
import BucketProvisioning.Proofs.Resource.RoundTrip
import BucketProvisioning.Proofs.Resource.StatusWrites
import BucketProvisioning.Proofs.Watch.Queueing
import BucketProvisioning.Proofs.Watch.Relist
import BucketProvisioning.Queue.Bell
import BucketProvisioning.Queue.RetryQueue
import BucketProvisioning.Queue.Station
import BucketProvisioning.Queue.Timers
import BucketProvisioning.Queue.WorkQueue
import BucketProvisioning.Reconcile.Accesses
import BucketProvisioning.Reconcile.Claims
import BucketProvisioning.Reconcile.Program
import BucketProvisioning.Reconcile.Secrets
import BucketProvisioning.Resource.Access
import BucketProvisioning.Resource.Claim
import BucketProvisioning.Resource.Class
import BucketProvisioning.Resource.Definition
import BucketProvisioning.Resource.Lease
import BucketProvisioning.Resource.Metadata
import BucketProvisioning.Resource.Object
import BucketProvisioning.Resource.Secret
import BucketProvisioning.Settings
import BucketProvisioning.Store
import BucketProvisioning.Stores
import BucketProvisioning.Table
import BucketProvisioning.Text.Base64
import BucketProvisioning.Text.Blank
import BucketProvisioning.Text.Escaped
import BucketProvisioning.Text.Form
import BucketProvisioning.Text.Quoted
import BucketProvisioning.Text.Similarity
import BucketProvisioning.Text.Terminal
import BucketProvisioning.Time.Calendar
import BucketProvisioning.Time.Span
import BucketProvisioning.Time.Timestamp
import BucketProvisioning.Uri
import BucketProvisioning.Watch.Follower
import BucketProvisioning.Watch.Notification
import BucketProvisioning.Watch.Session
