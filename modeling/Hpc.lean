import Hpc.Lib.Runs
import Hpc.Lib.Mailbox
import Hpc.Lib.Slots
import Hpc.Lib.Sequencing
import Hpc.Lib.Keyed
import Hpc.Lib.Sweep
import Hpc.Lib.Counters
import Hpc.Lib.Footprint
import Hpc.Lib.Conversion
import Hpc.Lib.Splice
import Hpc.Lib.Contract
import Hpc.Lib.Tiling
import Hpc.Core.F64
import Hpc.Core.Types
import Hpc.Core.Config
import Hpc.Core.Error
import Hpc.Core.Duration
import Hpc.Core.Floats
import Hpc.Core.Json
import Hpc.Core.Text
import Hpc.Core.Layout
import Hpc.Wire.Proto
import Hpc.Wire.RoundTrip
import Hpc.Daemon.Store
import Hpc.Daemon.State
import Hpc.Daemon.Service
import Hpc.Daemon.Grpc
import Hpc.Daemon.Health
import Hpc.Daemon.Durability
import Hpc.Daemon.WriteThrough
import Hpc.Daemon.Recovery
import Hpc.Daemon.Quiescence
import Hpc.Daemon.Failure
import Hpc.Daemon.Overlap
import Hpc.Daemon.Integrity
import Hpc.Daemon.Census
import Hpc.Daemon.Commute
import Hpc.Daemon.Reaper
import Hpc.Daemon.Sweep
import Hpc.Daemon.Epoch
import Hpc.Daemon.Outcomes
import Hpc.Daemon.Api
import Hpc.Daemon.Routes
import Hpc.Monitor.Health
import Hpc.Monitor.Metrics
import Hpc.Monitor.Export
import Hpc.Monitor.Transitions
import Hpc.Ffi.BlockIo
import Hpc.Ffi.Atomic
import Hpc.Ffi.Termination
import Hpc.Ffi.Device
import Hpc.Bench.Run
import Hpc.Bench.Cleanup
import Hpc.Bench.Bounds
import Hpc.Bench.Raw
import Hpc.Agent.Executor
import Hpc.Agent.Argv
import Hpc.Agent.Operands
import Hpc.Agent.Client
import Hpc.Agent.Backoff
import Hpc.Agent.ProcFs
import Hpc.Agent.Metrics
import Hpc.Agent.Traffic
import Hpc.Agent.Overflow
import Hpc.Diag.Proc
import Hpc.Diag.Render
import Hpc.Diag.Malformed
import Hpc.Diag.Mounts
import Hpc.Diag.Report
import Hpc.Diag.Anomalies
import Hpc.Diag.Agreement
import Hpc.Plane.Gate
import Hpc.Plane.Audit
import Hpc.Plane.Stream
import Hpc.Plane.Model
import Hpc.Plane.Registry
import Hpc.Plane.Delivery
import Hpc.Plane.Loss
import Hpc.Plane.Fence
import Hpc.Plane.Simulation
import Hpc.Plane.Timers
import Hpc.Lib.Progress
import Hpc.Plane.Drain
import Hpc.Plane.Pressure
import Hpc.Cli.Commands
import Hpc.Plane.Console
import Hpc.Monitor.Mirror
import Hpc.Plane.Cadence
import Hpc.Cli.Client
import Hpc.Cli.Screens
import Hpc.Plane.Telemetry
import Hpc.Plane.Session
import Hpc.Diag.Bundle
import Hpc.Plane.Answers
import Hpc.Ffi.Sequence
import Hpc.Agent.Accumulation
import Hpc.Plane.Alarm
import Hpc.Bench.Ledger
import Hpc.Daemon.Batch
