import Hpc.Daemon.Service
import Hpc.Daemon.WriteThrough

set_option autoImplicit false

namespace Hpc.Daemon

open Hpc.Core Hpc.Lib

inductive Reply (F : Type) where
  | registered (record : NodeRecord F)
  | ingested
  | removed (present : Bool)
deriving DecidableEq

section Calls

variable {F Bytes : Type} [F64 F] (codec : Codec (NodeRecord F) Bytes) (thresholds : Thresholds F)

def Call.perform (txn : Txn) (state : SharedState F Bytes) : Call F → Except HpcError (Reply F) × SharedState F Bytes
  | .register info now => (registerNode codec txn info now state).map (Except.map .registered) id
  | .ingest report now => (ingestMetrics codec thresholds txn report now state).map (Except.map fun _ => .ingested) id
  | .deregister nodeId => (deregisterNode txn nodeId state).map (Except.map .removed) id

def Operation.call : Operation F → Option (Txn × Call F)
  | .register txn info now => some (txn, .register info now)
  | .ingest txn report now => some (txn, .ingest report now)
  | .deregister txn nodeId => some (txn, .deregister nodeId)
  | _ => none

theorem service_step_call (config : DaemonConfig F) (state : SharedState F Bytes) (operation : Operation F) (txn : Txn)
    (call : Call F) (writes : operation.call = some (txn, call)) :
    serviceStep codec config state operation = some (call.perform codec config.thresholds txn state).2 := by
  cases operation with
  | register => cases writes; rfl
  | ingest => cases writes; rfl
  | deregister => cases writes; rfl
  | heartbeat => cases writes
  | reap => cases writes
  | restart => cases writes

def SameTables (before after : SharedState F Bytes) : Prop :=
  after.nodes = before.nodes ∧ after.channels = before.channels ∧ after.store.nodes = before.store.nodes

def FailsClean (state : SharedState F Bytes) (txn : Txn) (call : Call F) : Prop :=
  ∀ failure, (call.perform codec thresholds txn state).1 = .error failure →
    SameTables state (call.perform codec thresholds txn state).2

-- The call has nothing to change in memory: the table already holds the very record it would write, or it is a call that is
-- turned away, or a removal of what is not there.
def Settled (state : SharedState F Bytes) : Call F → Prop
  | .register info now =>
      ∃ record, state.nodes[info.nodeId]? = some record ∧ record.info = info ∧ record.status = .registered ∧
        record.lastSeenUnix = now
  | .ingest report now =>
      ∀ record, state.nodes[report.nodeId]? = some record →
        record.status = classify report thresholds ∧ record.lastSeenUnix = now ∧ record.latestMetrics = some report
  | .deregister nodeId => state.nodes[nodeId]? = none ∧ state.channels[nodeId]? = none

theorem register_settled_iff (info : NodeInfo) (now : UInt64) (state : SharedState F Bytes) :
    (registerTable info now state.nodes).1 = state.nodes ↔ Settled thresholds state (.register info now) := by
  have whole := insert_eq_self_iff state.nodes info.nodeId (registerTable info now state.nodes).2
  refine whole.trans ?_
  rw [register_table_record]
  apply Iff.intro
  · intro found
    exact ⟨_, found, rfl, rfl, rfl⟩
  · rintro ⟨⟨_, _, _, latest⟩, found, rfl, rfl, rfl⟩
    rw [found]
    rfl

theorem ingest_settled_iff (report : MetricsReport F) (now : UInt64) (state : SharedState F Bytes) :
    (((ingestTable thresholds report now state.nodes).toOption).map Prod.fst).getD state.nodes = state.nodes ↔
      Settled thresholds state (.ingest report now) := by
  cases found : state.nodes[report.nodeId]? with
  | none => simp [ingestTable, Settled, found, Except.toOption]
  | some old =>
      simp only [ingestTable, found, Except.toOption, Option.map_some, Option.getD_some, insert_eq_self_iff, Settled,
        Option.some.injEq, forall_eq']
      cases old
      simp only [NodeRecord.mk.injEq, true_and]

theorem deregister_settled_iff (nodeId : NodeId) (state : SharedState F Bytes) :
    ((deregisterTable nodeId state.nodes).1 = state.nodes ∧ state.channels.erase nodeId = state.channels) ↔
      Settled thresholds state (.deregister nodeId) :=
  and_congr (erase_eq_self_iff state.nodes nodeId) (erase_eq_self_iff state.channels nodeId)

theorem fails_clean_iff (state : SharedState F Bytes) (txn : Txn) (call : Call F) :
    FailsClean codec thresholds state txn call ↔ txn = .commits ∨ Settled thresholds state call := by
  cases call with
  | register info now =>
      cases txn with
      | commits => simp [FailsClean, Call.perform, registerNode, putNode, Except.map]
      | fails message =>
          rw [← register_settled_iff thresholds info now state]
          simp [FailsClean, SameTables, Call.perform, registerNode, putNode, Except.map]
  | ingest report now =>
      cases txn with
      | commits =>
          cases ingested : ingestTable thresholds report now state.nodes <;>
            simp [FailsClean, SameTables, Call.perform, ingestMetrics, ingested, putNode, Except.map]
      | fails message =>
          rw [← ingest_settled_iff thresholds report now state]
          cases ingested : ingestTable thresholds report now state.nodes <;>
            simp [FailsClean, SameTables, Call.perform, ingestMetrics, ingested, putNode, Except.map, Except.toOption]
  | deregister nodeId =>
      cases txn with
      | commits => simp [FailsClean, Call.perform, deregisterNode, deleteNode, Except.map]
      | fails message =>
          rw [← deregister_settled_iff thresholds nodeId state]
          simp [FailsClean, SameTables, Call.perform, deregisterNode, deleteNode, detachCommandChannel, Except.map]

def FailuresClean (config : DaemonConfig F) (state : SharedState F Bytes) (operation : Operation F) : Prop :=
  ∀ txn call, operation.call = some (txn, call) → FailsClean codec config.thresholds state txn call

def WritesSafely (config : DaemonConfig F) (state : SharedState F Bytes) (operation : Operation F) : Prop :=
  ∀ txn call, operation.call = some (txn, call) → txn = .commits ∨ Settled config.thresholds state call

theorem failures_clean_iff (config : DaemonConfig F) (start : SharedState F Bytes) (operations : List (Operation F)) :
    Obeys (serviceStep codec config) (FailuresClean codec config) start operations ↔
      Obeys (serviceStep codec config) (WritesSafely config) start operations := by
  have same : FailuresClean codec config = WritesSafely config := by
    funext state operation
    simp only [FailuresClean, WritesSafely, fails_clean_iff]
  rw [same]

end Calls

section Samples

def failedRegister : List (Operation ExactF64) := [.register (.fails "No space left on device") (sampleInfo "n1") 1000]

theorem failed_register_stays :
    bootstrap (jsonCodec exactSerde) Store.fresh = .ok ⟨∅, ∅, Store.fresh⟩ ∧
      ¬ Obeys (serviceStep (jsonCodec exactSerde) sampleConfig) (FailuresClean (jsonCodec exactSerde) sampleConfig)
        ⟨∅, ∅, Store.fresh⟩ failedRegister := by
  apply And.intro rfl
  intro clean
  obtain ⟨here, _⟩ := clean _ rfl
  obtain ⟨sameNodes, _⟩ := here _ _ rfl _ rfl
  have registered : (registerTable (sampleInfo "n1") 1000 (∅ : NodeTable ExactF64)).1["n1"]? = none := by
    exact (congrArg (fun nodes : NodeTable ExactF64 => nodes["n1"]?) sameNodes).trans rfl
  cases registered

end Samples

end Hpc.Daemon
