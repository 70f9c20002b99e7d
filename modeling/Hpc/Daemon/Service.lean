import Hpc.Lib.Runs
import Hpc.Daemon.State

set_option autoImplicit false

namespace Hpc.Daemon

open Hpc.Core Hpc.Lib

-- One operation on the shared state, run to completion, with the answer of the database and the clock reading it gets. A
-- restart keeps nothing but the store.
inductive Operation (F : Type) where
  | register (txn : Txn) (info : NodeInfo) (now : UInt64)
  | ingest (txn : Txn) (report : MetricsReport F) (now : UInt64)
  | heartbeat (nodeId : NodeId) (now : UInt64)
  | reap (now : UInt64)
  | deregister (txn : Txn) (nodeId : NodeId)
  | restart

section Machine

variable {F Bytes : Type} [F64 F] (codec : Codec (NodeRecord F) Bytes) (config : DaemonConfig F)

-- A failed operation is a step too: it leaves whatever it had already changed. Only a restart can be impossible, when the
-- store does not load.
def serviceStep (state : SharedState F Bytes) : Operation F → Option (SharedState F Bytes)
  | .register txn info now => some (registerNode codec txn info now state).2
  | .ingest txn report now => some (ingestMetrics codec config.thresholds txn report now state).2
  | .heartbeat nodeId now => some (heartbeat nodeId now state).2
  | .reap now => some (reapStale config.nodeTimeout.asSecs now state).2
  | .deregister txn nodeId => some (deregisterNode txn nodeId state).2
  | .restart => (bootstrap codec state.store).toOption

end Machine

section Samples

def sampleInfo (id : NodeId) : NodeInfo := ⟨id, id, "10.0.0.1", .storage, 8, 100, 100, "0.1.0", "6.1", "linux", 0, ∅⟩

def sampleConfig : DaemonConfig ExactF64 :=
  ⟨⟨30, 0, by decide⟩, ⟨10, 0, by decide⟩, ⟨.finite (9 / 10), .finite (9 / 10), .finite (9 / 10), .finite 2⟩⟩

def rationalConfig : DaemonConfig ℚ := ⟨⟨30, 0, by decide⟩, ⟨10, 0, by decide⟩, ⟨9 / 10, 9 / 10, 9 / 10, 2⟩⟩

def memoryReport (id : NodeId) (usedBytes : UInt64) : MetricsReport ExactF64 :=
  ⟨id, 1000, ⟨.finite 0, []⟩, ⟨100, usedBytes, 0, 0, 0⟩, ⟨.finite 0, .finite 0, .finite 0⟩, [], ⟨0, 0, 0, 0⟩, []⟩

end Samples

section Memory

variable {F Bytes : Type} (codec : Codec (NodeRecord F) Bytes)

theorem register_node_nodes (txn : Txn) (info : NodeInfo) (now : UInt64) (state : SharedState F Bytes) :
    (registerNode codec txn info now state).2.nodes = (registerTable info now state.nodes).1 := by
  cases txn <;> rfl

theorem deregister_node_nodes (txn : Txn) (nodeId : NodeId) (state : SharedState F Bytes) :
    (deregisterNode txn nodeId state).2.nodes = (deregisterTable nodeId state.nodes).1 := by
  cases txn <;> rfl

theorem heartbeat_next (nodeId : NodeId) (now : UInt64) (state : SharedState F Bytes) :
    (heartbeat nodeId now state).2 =
      { state with nodes := ((heartbeatTable nodeId now state.nodes).toOption).getD state.nodes } := by
  rw [heartbeat]
  cases heartbeatTable nodeId now state.nodes <;> rfl

theorem ingest_metrics_nodes [F64 F] (thresholds : Thresholds F) (txn : Txn) (report : MetricsReport F)
    (now : UInt64) (state : SharedState F Bytes) :
    (ingestMetrics codec thresholds txn report now state).2.nodes =
      (((ingestTable thresholds report now state.nodes).toOption).map Prod.fst).getD state.nodes := by
  rw [ingestMetrics]
  cases ingestTable thresholds report now state.nodes with
  | error failure => rfl
  | ok result => cases txn <;> rfl

theorem bootstrap_spec (store : Store Bytes) (state : SharedState F Bytes)
    (booted : bootstrap codec store = .ok state) :
    ∃ records, loadNodes codec store = .ok records ∧ state = ⟨records.foldl hydrate ∅, ∅, store⟩ := by
  rw [bootstrap] at booted
  cases loaded : loadNodes codec store with
  | error failure => simp [loaded, bind, Except.bind] at booted
  | ok records =>
      refine ⟨records, rfl, ?_⟩
      simpa [loaded, bind, Except.bind, pure, Except.pure] using booted.symm

theorem hydrate_mem (records : List (NodeRecord F)) (id : NodeId) (record : NodeRecord F)
    (found : (records.foldl hydrate ∅)[id]? = some record) :
    ∃ loaded ∈ records, loaded.info.nodeId = id ∧ record = { loaded with status := .unreachable } := by
  rw [hydrate_lookup] at found
  simp only [Std.ExtTreeMap.getElem?_empty, Option.or_none, Option.map_eq_some_iff] at found
  obtain ⟨loaded, present, rfl⟩ := found
  exact ⟨loaded, List.mem_reverse.mp (List.mem_of_find?_eq_some present), by simpa using List.find?_some present, rfl⟩

theorem bootstrap_unreachable (store : Store Bytes) (state : SharedState F Bytes)
    (booted : bootstrap codec store = .ok state) :
    ∀ (id : NodeId) (record : NodeRecord F), state.nodes[id]? = some record → record.status = .unreachable := by
  obtain ⟨records, _, rfl⟩ := bootstrap_spec codec store state booted
  intro id record found
  obtain ⟨loaded, _, _, rfl⟩ := hydrate_mem records id record found
  rfl

end Memory

end Hpc.Daemon
