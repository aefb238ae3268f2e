import DBOSModel.Relational.Table
import DBOSModel.Relational.Execution
import DBOSModel.Relational.Transaction
import DBOSModel.SysDb.Schema
import DBOSModel.SysDb.Dequeue
import DBOSModel.SysDb.Fork
import DBOSModel.Core.InitWorkflow
import DBOSModel.SysDb.StatusOperation
import DBOSModel.Queue.GlobalConcurrency
import DBOSModel.SysDb.WriteOnce
import DBOSModel.SysDb.StatusInvariant
import DBOSModel.Queue.RateLimit
import DBOSModel.Queue.WorkerConcurrency
import DBOSModel.SysDb.IdempotentStart
import DBOSModel.SysDb.Serialization
import DBOSModel.SysDb.Checkpoint
import DBOSModel.SysDb.CheckpointAgreement
import DBOSModel.SysDb.Notifications
import DBOSModel.SysDb.Events
import DBOSModel.SysDb.RetryIdempotence
import DBOSModel.Core.Transaction
import DBOSModel.Datasource
import DBOSModel.SysDb.GarbageCollect
import DBOSModel.SysDb.RecoveryAttempts
import DBOSModel.Core.Recovery
import DBOSModel.Core.Persist
import DBOSModel.Core.Timeout
import DBOSModel.Core.Dispatch
import DBOSModel.SysDb.ForkDescendants
import DBOSModel.SysDb.Delivery
import DBOSModel.SysDb.Receive
import DBOSModel.Core.GetResult
import DBOSModel.Core.Replay
import DBOSModel.Core.Patch
import DBOSModel.Outcome
import DBOSModel.SysDb.Waiters
import DBOSModel.Queue.Partition
import DBOSModel.SysDb.ForkBatch
import DBOSModel.SysDb.WorkflowData
import DBOSModel.SysDb.Streams
import DBOSModel.SysDb.EventHistory
import DBOSModel.Debouncer
import DBOSModel.Scheduler
import DBOSModel.Core.SingleExecution
import DBOSModel.Core.ReplayDecoding
import DBOSModel.Relational.Watermark
import DBOSModel.SysDb.DequeueSelection
import DBOSModel.WorkflowCommands
import DBOSModel.Relational.Frontier
import DBOSModel.SysDb.ChildSearch
import DBOSModel.SysDb.Export
import DBOSModel.SysDb.ExportRoundTrip
import DBOSModel.StreamReader
import DBOSModel.Queue.Configuration
import DBOSModel.Relational.Dict
import DBOSModel.Workers.Durawatch
import DBOSModel.Relational.Emission
import DBOSModel.Workers.Interleave
import DBOSModel.SysDb.WaiterLifecycle
import DBOSModel.Outcome.Retry
import DBOSModel.Serialization.Portable
import DBOSModel.Serialization.PortableError
import DBOSModel.SysDb.Migration
import DBOSModel.Core.StartWorkflow
import DBOSModel.Debouncer.Cap
import DBOSModel.Text.Lines
import DBOSModel.Workers.Frontmatter
import DBOSModel.Workers.FrontmatterInline
import DBOSModel.Workers.FrontmatterParsed
import DBOSModel.Workers.FrontmatterContainers
import DBOSModel.Workers.FrontmatterLines
import DBOSModel.Workers.FrontmatterLayout
import DBOSModel.Workers.FrontmatterRoundTrip
import DBOSModel.Calendar.Gregorian
import DBOSModel.Calendar.Clock
import DBOSModel.Search.Skip
import DBOSModel.Calendar.UnitSkip
import DBOSModel.Cron.Fields
import DBOSModel.Cron.Calc
import DBOSModel.Cron.NthWeekday
import DBOSModel.Cron.NextStep
import DBOSModel.Cron.NextMatch
import DBOSModel.Cron.Expand
import DBOSModel.Cron.Accepted
import DBOSModel.Cron.GetNext
import DBOSModel.Search.Enumerate
import DBOSModel.Cron.Iterate
import DBOSModel.Cron.Regular
import DBOSModel.Relational.Managed
import DBOSModel.Core.Context
import DBOSModel.Core.ContextPrograms
import DBOSModel.Core.ContextFrame
import DBOSModel.Core.ContextRuns
import DBOSModel.Core.ContextGuarantees
import DBOSModel.Queue.Manager
import DBOSModel.Scheduler.Loop
