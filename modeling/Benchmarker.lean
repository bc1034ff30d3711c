import Benchmarker.Failure.Classifier
import Benchmarker.Chunked.Splitter
import Benchmarker.Chunked.Utf8
import Benchmarker.Js.Stringify
import Benchmarker.Bridge.Frames
import Benchmarker.Config.Layers
import Benchmarker.Config.Load
import Benchmarker.Eis.Payload
import Benchmarker.Eis.Stream
import Benchmarker.Async.Prog
import Benchmarker.Async.Threads
import Benchmarker.Queue.Doc
import Benchmarker.Queue.Index
import Benchmarker.Queue.Run
import Benchmarker.Queue.Service
import Benchmarker.Queue.Sends
import Benchmarker.Queue.Fence
import Benchmarker.Queue.Token
import Benchmarker.Queue.Rep
import Benchmarker.Queue.Unique
import Benchmarker.Queue.Reclaim
import Benchmarker.CiEval.Stage2
import Benchmarker.Scheduler.Ops
import Benchmarker.CiEval.Merge
import Benchmarker.CiEval.Matrix
import Benchmarker.CiEval.SkipSet
import Benchmarker.CiEval.Equivalence
import Benchmarker.CiEval.Rows
import Benchmarker.Scheduler.Format
import Benchmarker.Scheduler.Stage1
import Benchmarker.Scheduler.Pipeline
import Benchmarker.Scheduler.Entry
import Benchmarker.Scheduler.Poll
import Benchmarker.Async.Uses
import Benchmarker.Async.Vars
import Benchmarker.Async.Rejections
import Benchmarker.Scheduler.Kinds
import Benchmarker.Scheduler.Parts
import Benchmarker.Scheduler.Detached
import Benchmarker.Scheduler.Course
import Benchmarker.Scheduler.Teardown
import Benchmarker.Scheduler.Tunnel
import Benchmarker.Scheduler.Saves
import Benchmarker.Scheduler.System
import Benchmarker.Scheduler.SingleFlight
import Benchmarker.Scheduler.Settle
import Benchmarker.Scheduler.Retry
import Benchmarker.Lease.Index
import Benchmarker.Lease.Service
import Benchmarker.Lease.Sends
import Benchmarker.Lease.Acquire
import Benchmarker.Lease.Ownership
import Benchmarker.Report.Verdict
import Benchmarker.LocalBatch.Store
import Benchmarker.LocalBatch.Runner
import Benchmarker.LocalBatch.Worker
import Benchmarker.LocalBatch.Merge
import Benchmarker.LocalBatch.Resume
import Benchmarker.LocalBatch.Record
import Benchmarker.LocalBatch.Evidence
import Benchmarker.LocalBatch.Skip
import Benchmarker.Report.Builder
import Benchmarker.Stage2.Gate
import Benchmarker.Stage2.Agreement
import Benchmarker.Report.Skipped
import Benchmarker.Report.Regenerate
import Benchmarker.Report.Faithful
import Benchmarker.Stage2.SuiteRunner
import Benchmarker.Stage2.Worker
import Benchmarker.Fleet.World
import Benchmarker.Fleet.System
import Benchmarker.Fleet.Adoption
import Benchmarker.Fleet.Handled
import Benchmarker.Maintenance.Sweep
import Benchmarker.Scheduler.Strikes
import Benchmarker.Lockfile.Calls
import Benchmarker.Lockfile.Exclusion
import Benchmarker.Buildkite.Create
import Benchmarker.Buildkite.Idle
import Benchmarker.Guard.Takeover
import Benchmarker.Buzz.CatchUp
import Benchmarker.CiEval.SuiteLoop
import Benchmarker.Benchmark.Parser
import Benchmarker.Benchmark.Runner
import Benchmarker.Benchmark.Reevaluate
import Benchmarker.Benchmark.Absence
import Benchmarker.Benchmark.ToolCalls
import Benchmarker.Results.Stage2
import Benchmarker.Failure.Tagging
import Benchmarker.Fleet.Intake
import Benchmarker.Fleet.Terminal
import Benchmarker.Posix.Lexer
import Benchmarker.Ssh.Command
import Benchmarker.Order.Cover
import Benchmarker.Order.Groups
import Benchmarker.Config.Tiers
import Benchmarker.Js.Heap
import Benchmarker.Breaker.Record
import Benchmarker.Breaker.Circuit
import Benchmarker.Breaker.Values
import Benchmarker.Breaker.Tally
import Benchmarker.Breaker.Window
import Benchmarker.Breaker.Probe
import Benchmarker.Health.Logs
import Benchmarker.Recovery.Service
import Benchmarker.Health.Wait
import Benchmarker.Health.Aborts
import Benchmarker.Scheduler.Overrides
import Benchmarker.Deployment.Disk
import Benchmarker.Deployment.Eviction
import Benchmarker.Deployment.Adoption
import Benchmarker.Deployment.ParserAgreement
import Benchmarker.Discovery.Subdirectories
import Benchmarker.Discovery.Family
import Benchmarker.Discovery.Units
import Benchmarker.Discovery.Entry
import Benchmarker.Discovery.ConfigCache
import Benchmarker.Discovery.Supersede
import Benchmarker.Discovery.AutoQueue
import Benchmarker.Discovery.Scan
import Benchmarker.Discovery.Window
import Benchmarker.Discovery.Wrapping
import Benchmarker.Health.Monitor
import Benchmarker.Stage2.Connector
import Benchmarker.Stage2.EvalTasks
import Benchmarker.Tunnel.Cleanup
import Benchmarker.Js.Units
import Benchmarker.Stage3.Worker
import Benchmarker.LocalBatch.SuiteOrder
import Benchmarker.Discovery.ShardNames
import Benchmarker.Scheduler.Tracker
import Benchmarker.Store.RoundTrip
import Benchmarker.Server.Gate
import Benchmarker.Server.Reports
import Benchmarker.Ssh.PoolRuns
import Benchmarker.Queue.Claims
import Benchmarker.Queue.Drain
import Benchmarker.Fleet.Recovery
import Benchmarker.Stage2.Evaluation
import Benchmarker.Store.Shelf
import Benchmarker.Migration.Serverless
