import Hpc.Daemon.Service
import Hpc.Plane.Model

set_option autoImplicit false

namespace Hpc.Plane

open Hpc.Core Hpc.Daemon Hpc.Lib

variable {F Bytes : Type}

-- The relay sees of the node table who is in it, and the whole of the channel registry.
structure Mirrors (relay : Relay) (state : SharedState F Bytes) : Prop where
  known : ∀ id : NodeId, id ∈ relay.nodes ↔ id ∈ state.nodes
  channels : relay.channels = state.channels

theorem mirrors_table (relay : Relay) (state next : SharedState F Bytes) (mirrors : Mirrors relay state)
    (same : ∀ id : NodeId, (next.nodes[id]?).isSome = (state.nodes[id]?).isSome) (channels : next.channels = state.channels) :
    Mirrors relay next := by
  refine ⟨fun id => ?_, mirrors.channels.trans channels.symm⟩
  rw [mirrors.known, Std.ExtTreeMap.mem_iff_isSome_getElem?, Std.ExtTreeMap.mem_iff_isSome_getElem?, same]

section Operations

variable (codec : Codec (NodeRecord F) Bytes)

theorem register_node_channels (txn : Txn) (info : NodeInfo) (now : UInt64) (state : SharedState F Bytes) :
    (registerNode codec txn info now state).2.channels = state.channels := by
  cases txn <;> rfl

theorem ingest_metrics_channels [F64 F] (thresholds : Thresholds F) (txn : Txn) (report : MetricsReport F) (now : UInt64)
    (state : SharedState F Bytes) : (ingestMetrics codec thresholds txn report now state).2.channels = state.channels := by
  rw [ingestMetrics]
  cases ingestTable thresholds report now state.nodes with
  | error failure => rfl
  | ok result => cases txn <;> rfl

theorem deregister_node_channels (txn : Txn) (nodeId : NodeId) (state : SharedState F Bytes) :
    (deregisterNode txn nodeId state).2.channels = state.channels.erase nodeId := by
  cases txn <;> rfl

theorem register_mirrored (relay : Relay) (txn : Txn) (info : NodeInfo) (now : UInt64) (state : SharedState F Bytes)
    (mirrors : Mirrors relay state) :
    ∃ next, relayStep relay (.register info.nodeId) = some next ∧ Mirrors next (registerNode codec txn info now state).2 := by
  refine ⟨_, rfl, fun id => ?_, mirrors.channels.trans (register_node_channels codec txn info now state).symm⟩
  rw [register_node_nodes, Std.ExtTreeMap.mem_iff_isSome_getElem?, register_table_lookup, Finset.mem_insert, mirrors.known]
  by_cases same : info.nodeId = id
  · simp [same]
  · rw [if_neg same, Std.ExtTreeMap.mem_iff_isSome_getElem?]
    have other : ¬ id = info.nodeId := Ne.symm same
    simp [other]

theorem deregister_mirrored (relay : Relay) (txn : Txn) (nodeId : NodeId) (state : SharedState F Bytes)
    (mirrors : Mirrors relay state) :
    ∃ next, runFrom relayStep relay [.callDeregister nodeId, .stepDeregister relay.deregistrations.length,
        .stepDeregister relay.deregistrations.length, .stepDeregister relay.deregistrations.length] = some next ∧
      Mirrors next (deregisterNode txn nodeId state).2 := by
  refine ⟨{ relay with
    nodes := relay.nodes.erase nodeId
    channels := relay.channels.erase nodeId
    deregistrations := relay.deregistrations ++ [⟨nodeId, .returned⟩]
    fenced := insert nodeId relay.fenced }, ?ran, ?known, ?channels⟩
  case ran =>
    simp [runFrom, relayStep, Relay.advanceDeregistration, Relay.setDeregistration]
  case known =>
    intro id
    rw [deregister_node_nodes, Std.ExtTreeMap.mem_iff_isSome_getElem?, deregister_table_lookup, Finset.mem_erase, mirrors.known]
    by_cases same : nodeId = id
    · simp [same]
    · rw [if_neg same, Std.ExtTreeMap.mem_iff_isSome_getElem?]
      have other : id ≠ nodeId := Ne.symm same
      simp [other]
  case channels => rw [deregister_node_channels, ← mirrors.channels]

theorem heartbeat_mirrored (relay : Relay) (nodeId : NodeId) (now : UInt64) (state : SharedState F Bytes)
    (mirrors : Mirrors relay state) : Mirrors relay (heartbeat nodeId now state).2 := by
  rw [heartbeat_next]
  refine mirrors_table relay state _ mirrors (fun id => ?_) rfl
  rw [heartbeat_table_lookup]
  cases state.nodes[id]? <;> rfl

theorem reap_mirrored (relay : Relay) (nodeTimeoutSecs now : UInt64) (state : SharedState F Bytes)
    (mirrors : Mirrors relay state) : Mirrors relay (reapStale nodeTimeoutSecs now state).2 := by
  refine mirrors_table relay state _ mirrors (fun id => ?_) rfl
  change ((reapTable nodeTimeoutSecs now state.nodes).1[id]?).isSome = _
  rw [reap_table_lookup]
  cases state.nodes[id]? <;> rfl

theorem ingest_mirrored [F64 F] (relay : Relay) (thresholds : Thresholds F) (txn : Txn) (report : MetricsReport F) (now : UInt64)
    (state : SharedState F Bytes) (mirrors : Mirrors relay state) :
    Mirrors relay (ingestMetrics codec thresholds txn report now state).2 := by
  apply mirrors_table relay state _ mirrors _ (ingest_metrics_channels codec thresholds txn report now state)
  intro id
  rw [ingest_metrics_nodes]
  cases ingested : ingestTable thresholds report now state.nodes with
  | error failure => rfl
  | ok result =>
      obtain ⟨nodes, record⟩ := result
      obtain ⟨old, found, rfl, _⟩ := ingest_table_spec thresholds report now state.nodes nodes record ingested
      change ((state.nodes.insert report.nodeId record)[id]?).isSome = _
      rw [lookup_insert]
      by_cases same : report.nodeId = id
      · rw [if_pos same, ← same, found]
        rfl
      · rw [if_neg same]

def instanceStep [F64 F] (config : DaemonConfig F) (state : SharedState F Bytes) : Operation F → Option (SharedState F Bytes)
  | .restart => none
  | operation => serviceStep codec config state operation

theorem operation_mirrored [F64 F] (config : DaemonConfig F) (relay : Relay) (state next : SharedState F Bytes)
    (operation : Operation F) (mirrors : Mirrors relay state) (taken : instanceStep codec config state operation = some next) :
    ∃ labels after, runFrom relayStep relay labels = some after ∧ Mirrors after next := by
  cases operation with
  | register txn info now =>
      cases taken
      obtain ⟨after, stepped, mirrored⟩ := register_mirrored codec relay txn info now state mirrors
      exact ⟨[.register info.nodeId], after, (run_cons relayStep _ _ _ _).mpr ⟨after, stepped, rfl⟩, mirrored⟩
  | ingest txn report now =>
      cases taken
      exact ⟨[], relay, rfl, ingest_mirrored codec relay config.thresholds txn report now state mirrors⟩
  | heartbeat nodeId now =>
      cases taken
      exact ⟨[], relay, rfl, heartbeat_mirrored relay nodeId now state mirrors⟩
  | reap now =>
      cases taken
      exact ⟨[], relay, rfl, reap_mirrored relay config.nodeTimeout.asSecs now state mirrors⟩
  | deregister txn nodeId =>
      cases taken
      obtain ⟨after, ran, mirrored⟩ := deregister_mirrored relay txn nodeId state mirrors
      exact ⟨_, after, ran, mirrored⟩
  | restart => cases taken

theorem boot_mirrors (store : Store Bytes) (state : SharedState F Bytes) (booted : bootstrap codec store = .ok state) :
    Mirrors (Relay.boot state.nodes.keys.toFinset) state := by
  obtain ⟨records, _, rfl⟩ := bootstrap_spec codec store state booted
  refine ⟨fun id => ?_, rfl⟩
  rw [Relay.boot, List.mem_toFinset, Std.ExtTreeMap.mem_keys]

theorem service_mirrored [F64 F] (config : DaemonConfig F) (store : Store Bytes) (start finish : SharedState F Bytes)
    (operations : List (Operation F)) (booted : bootstrap codec store = .ok start)
    (ran : runFrom (instanceStep codec config) start operations = some finish) :
    ∃ labels relay, runFrom relayStep (Relay.boot start.nodes.keys.toFinset) labels = some relay ∧ Mirrors relay finish :=
  run_simulated (instanceStep codec config) relayStep Mirrors
    (fun relay state operation next mirrors taken => operation_mirrored codec config relay state next operation mirrors taken)
    start finish operations _ (boot_mirrors codec store start booted) ran

end Operations

end Hpc.Plane
