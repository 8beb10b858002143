import Reconcile.Change.Scan
import Reconcile.Content
import Reconcile.Disk.Action
import Reconcile.Disk.Basic
import Reconcile.Disk.Path
import Reconcile.Disk.Tree
import Reconcile.Entries
import Reconcile.Failure
import Reconcile.Host
import Reconcile.Interface
import Reconcile.Item.Basic
import Reconcile.Item.Code
import Reconcile.Proofs.Change.Calls
import Reconcile.Proofs.Change.Edited
import Reconcile.Proofs.Change.Partition
import Reconcile.Proofs.Change.Probe
import Reconcile.Proofs.Change.Raise
import Reconcile.Proofs.Content.Serial
import Reconcile.Proofs.Disk.Confined
import Reconcile.Proofs.Disk.Directories
import Reconcile.Proofs.Disk.Targets
import Reconcile.Proofs.Entries
import Reconcile.Proofs.Provider.Fresh
import Reconcile.Proofs.Provider.Laws
import Reconcile.Proofs.Provider.Memory
import Reconcile.Proofs.Report.Buckets
import Reconcile.Proofs.Report.Faults
import Reconcile.Proofs.Report.Listed
import Reconcile.Proofs.Report.Verdicts
import Reconcile.Proofs.Run
import Reconcile.Proofs.Server.Conserved
import Reconcile.Proofs.Session.Account
import Reconcile.Proofs.Session.Answered
import Reconcile.Proofs.Session.Books
import Reconcile.Proofs.Session.Calls
import Reconcile.Proofs.Session.Carried
import Reconcile.Proofs.Session.Completed
import Reconcile.Proofs.Session.Composed
import Reconcile.Proofs.Session.Confirmation
import Reconcile.Proofs.Session.Convergence
import Reconcile.Proofs.Session.Course
import Reconcile.Proofs.Session.Delivery
import Reconcile.Proofs.Session.Download
import Reconcile.Proofs.Session.Exchanged
import Reconcile.Proofs.Session.Filled
import Reconcile.Proofs.Session.Interrupted
import Reconcile.Proofs.Session.Ledger
import Reconcile.Proofs.Session.Opened
import Reconcile.Proofs.Session.Order
import Reconcile.Proofs.Session.Outcomes
import Reconcile.Proofs.Session.Quota
import Reconcile.Proofs.Session.Refreshed
import Reconcile.Proofs.Session.Replayed
import Reconcile.Proofs.Session.Reports
import Reconcile.Proofs.Session.Retry
import Reconcile.Proofs.Session.Shown
import Reconcile.Proofs.Session.Transcript
import Reconcile.Proofs.Session.Undisturbed
import Reconcile.Proofs.Session.Unmodified
import Reconcile.Proofs.Session.Unreadable
import Reconcile.Proofs.Session.Upload
import Reconcile.Proofs.Source.Atomic
import Reconcile.Proofs.Source.Bracketed
import Reconcile.Proofs.Source.Commit
import Reconcile.Proofs.Source.Cursors
import Reconcile.Proofs.Source.Decisive
import Reconcile.Proofs.Source.Echo
import Reconcile.Proofs.Source.Elementary
import Reconcile.Proofs.Source.Enumeration
import Reconcile.Proofs.Source.Events
import Reconcile.Proofs.Source.Frame
import Reconcile.Proofs.Source.Incoming
import Reconcile.Proofs.Source.Items
import Reconcile.Proofs.Source.Modes
import Reconcile.Proofs.Source.Operation
import Reconcile.Proofs.Source.Raised
import Reconcile.Proofs.Source.Refresh
import Reconcile.Proofs.Source.Scanning
import Reconcile.Proofs.Source.Silent
import Reconcile.Proofs.Source.Stopped
import Reconcile.Proofs.Source.Streams
import Reconcile.Proofs.Source.Turns
import Reconcile.Proofs.Source.Uncommitted
import Reconcile.Proofs.Source.Unsaved
import Reconcile.Proofs.Store.Crash
import Reconcile.Proofs.Store.Durable
import Reconcile.Proofs.Store.Flush
import Reconcile.Proofs.Store.Grammar
import Reconcile.Proofs.Store.Interchange
import Reconcile.Proofs.Store.Isolation
import Reconcile.Proofs.Store.Mishap
import Reconcile.Proofs.Store.Ordered
import Reconcile.Proofs.Store.Restart
import Reconcile.Proofs.Store.RoundTrip
import Reconcile.Provider.Hooked
import Reconcile.Provider.Memory
import Reconcile.Report
import Reconcile.Scenario.TwoRuns
import Reconcile.Server.Queued
import Reconcile.Server.Scripted
import Reconcile.Session.Basic
import Reconcile.Session.Exchange
import Reconcile.Settings
import Reconcile.Source.Basic
import Reconcile.Source.Bracket
import Reconcile.Source.Incoming
import Reconcile.Source.Outgoing
import Reconcile.Store.Cache
import Reconcile.Store.PropertyFile
import Reconcile.Store.PropertyText
import Reconcile.Store.Table
import Reconcile.Text.Quoted
import Reconcile.Text.Segments
