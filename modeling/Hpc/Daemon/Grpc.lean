import Hpc.Daemon.State
import Hpc.Wire.Proto

set_option autoImplicit false

namespace Hpc.Daemon

open Hpc.Core Hpc.Wire

-- The fields of the shared state that bootstrap sets once.
structure Instance where
  epoch : UInt64
  metricsIntervalSecs : UInt32

def Instance.boot {F : Type} (config : DaemonConfig F) (now : UInt64) : Instance :=
  ⟨now, (max config.metricsInterval.asSecs 1).toUInt32⟩

inductive Code where
  | internal
  | notFound
deriving DecidableEq, Repr

structure Status where
  code : Code
  message : String
deriving DecidableEq, Repr

structure RegisterAck where
  accepted : Bool
  assignedNodeId : String
  clusterEpoch : UInt64
  metricsIntervalSecs : UInt32
  message : String

structure HeartbeatAck where
  ok : Bool
  clusterEpoch : UInt64
  directives : List String

structure MetricsAck where
  received : Bool
  serverTimeUnix : UInt64

structure Ack where
  ok : Bool
  message : String

def toPbCommand (now : UInt64) (cmd : NodeCommand) : Pb.Command :=
  let (commandId, payload) := match cmd with
    | .deploy d => (d.deploymentId, Pb.Payload.deploy (deploySpecToPb d))
    | .fs f => (f.commandId, Pb.Payload.fs (fsSpecToPb f))
  ⟨commandId, now, some payload⟩

namespace Grpc

section Handlers

variable {F Bytes : Type} (codec : Codec (NodeRecord F) Bytes)

def registerNode (daemon : Instance) (txn : Txn) (request : Pb.NodeInfo) (now : UInt64) (state : SharedState F Bytes) :
    Except Status RegisterAck × SharedState F Bytes :=
  match Daemon.registerNode codec txn (nodeInfoFromPb request) now state with
  | (.error e, state) => (.error ⟨.internal, e.display⟩, state)
  | (.ok record, state) => (.ok ⟨true, record.info.nodeId, daemon.epoch, daemon.metricsIntervalSecs, "registered"⟩, state)

-- A heartbeat is always answered; an unknown node is asked to register too.
def heartbeat (daemon : Instance) (nodeRef : Pb.NodeRef) (now : UInt64) (state : SharedState F Bytes) :
    Except Status HeartbeatAck × SharedState F Bytes :=
  let mismatched := nodeRef.clusterEpoch ≠ 0 ∧ nodeRef.clusterEpoch ≠ daemon.epoch
  let directives := if mismatched then ["reregister"] else []
  match Daemon.heartbeat nodeRef.nodeId now state with
  | (.ok _, state) => (.ok ⟨true, daemon.epoch, directives⟩, state)
  | (.error _, state) => (.ok ⟨true, daemon.epoch, directives ++ ["reregister"]⟩, state)

def reportCommandResult (outcomes : Codec CommandOutcome Bytes) (txn : Txn) (request : Pb.CommandResult)
    (store : Store Bytes) : Except Status Ack × Store Bytes :=
  match putOutcome outcomes txn (outcomeFromPb request) store with
  | .error e => (.error ⟨.internal, e.display⟩, store)
  | .ok store => (.ok ⟨true, "recorded"⟩, store)

variable [F64 F]

def reportItem (thresholds : Thresholds F) (txn : Txn) (report : Pb.MetricsReport F) (now : UInt64)
    (state : SharedState F Bytes) : Except Status Unit × SharedState F Bytes :=
  match ingestMetrics codec thresholds txn (metricsReportFromPb report) now state with
  | (.error e, state) => (.error ⟨.internal, e.display⟩, state)
  | (.ok _, state) => (.ok (), state)

-- The stream ends early where the transport reports an error.
def reportStream (thresholds : Thresholds F) : List (Except Status (Txn × Pb.MetricsReport F × UInt64)) → Nat →
    SharedState F Bytes → Except Status Nat × SharedState F Bytes
  | [], received, state => (.ok received, state)
  | .error status :: _, _, state => (.error status, state)
  | .ok (txn, report, now) :: rest, received, state =>
      match reportItem codec thresholds txn report now state with
      | (.error status, state) => (.error status, state)
      | (.ok _, state) => reportStream thresholds rest (received + 1) state

def reportMetrics (thresholds : Thresholds F) (request : List (Except Status (Txn × Pb.MetricsReport F × UInt64)))
    (now : UInt64) (state : SharedState F Bytes) : Except Status MetricsAck × SharedState F Bytes :=
  match reportStream codec thresholds request 0 state with
  | (.error status, state) => (.error status, state)
  | (.ok received, state) => (.ok ⟨decide (0 < received), now⟩, state)

end Handlers

end Grpc

theorem to_pb_command_id (now : UInt64) (cmd : NodeCommand) : (toPbCommand now cmd).commandId = cmd.commandId := by
  cases cmd <;> rfl

end Hpc.Daemon
