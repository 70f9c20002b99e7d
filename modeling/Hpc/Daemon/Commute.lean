import Hpc.Lib.Footprint
import Hpc.Daemon.Failure
import Hpc.Daemon.Integrity

set_option autoImplicit false

namespace Hpc.Daemon

open Hpc.Core Hpc.Lib

-- The operations on one node. A channel is known by the call that attaches it, in whatever order the calls run.
inductive NodeOperation (F : Type) where
  | writing (txn : Txn) (call : Call F)
  | heartbeat (nodeId : NodeId) (now : UInt64)
  | attach (nodeId : NodeId) (channel : ChannelId)
  | detach (nodeId : NodeId)

inductive Answer (F : Type) where
  | replied (reply : Reply F)
  | beaten
  | attached (channel : ChannelId)
  | detached
deriving DecidableEq

structure NodeCell (F Bytes : Type) where
  record : Option (NodeRecord F)
  channel : Option ChannelId
  row : Option Bytes

section Cells

variable {F Bytes : Type} (codec : Codec (NodeRecord F) Bytes)

def nodeCell (state : SharedState F Bytes) (id : NodeId) : NodeCell F Bytes :=
  ⟨state.nodes[id]?, state.channels[id]?, state.store.nodes[id]?⟩

def Txn.written (txn : Txn) (old new : Option Bytes) : Option Bytes :=
  match txn with
  | .commits => new
  | .fails _ => old

def Txn.answers {A : Type} (txn : Txn) (answer : A) : Except HpcError A :=
  match txn with
  | .commits => .ok answer
  | .fails message => .error (.store message)

def NodeCell.put (txn : Txn) (record : NodeRecord F) (cell : NodeCell F Bytes) : NodeCell F Bytes :=
  ⟨some record, cell.channel, txn.written cell.row (some (codec.toVec record))⟩

def SharedState.put (txn : Txn) (id : NodeId) (record : NodeRecord F) (state : SharedState F Bytes) : SharedState F Bytes :=
  ⟨state.nodes.insert id record, state.channels, ((putNode codec txn record state.store).toOption).getD state.store⟩

def registeredRecord (info : NodeInfo) (now : UInt64) (old : Option (NodeRecord F)) : NodeRecord F :=
  ⟨info, .registered, now, old.bind NodeRecord.latestMetrics⟩

theorem put_cell (txn : Txn) (id : NodeId) (record : NodeRecord F) (state : SharedState F Bytes)
    (own : record.info.nodeId = id) (query : NodeId) :
    nodeCell (state.put codec txn id record) query =
      if id = query then (nodeCell state query).put codec txn record else nodeCell state query := by
  cases txn with
  | commits =>
      by_cases same : id = query <;>
        simp [SharedState.put, NodeCell.put, nodeCell, putNode, Except.toOption, Txn.written, lookup_insert, own, same]
  | fails message =>
      by_cases same : id = query <;>
        simp [SharedState.put, NodeCell.put, nodeCell, putNode, Except.toOption, Txn.written, lookup_insert, same]

theorem register_node_put (txn : Txn) (info : NodeInfo) (now : UInt64) (state : SharedState F Bytes) :
    registerNode codec txn info now state = (txn.answers (registeredRecord info now state.nodes[info.nodeId]?),
      state.put codec txn info.nodeId (registeredRecord info now state.nodes[info.nodeId]?)) := by
  rw [registeredRecord, ← register_table_record info now state.nodes]
  cases txn <;> rfl

theorem ingest_metrics_put [F64 F] (thresholds : Thresholds F) (txn : Txn) (report : MetricsReport F) (now : UInt64)
    (state : SharedState F Bytes) :
    ingestMetrics codec thresholds txn report now state = match state.nodes[report.nodeId]? with
      | none => (.error (unknownNode report.nodeId), state)
      | some old => (txn.answers (), state.put codec txn report.nodeId
          ⟨old.info, classify report thresholds, now, some report⟩) := by
  cases found : state.nodes[report.nodeId]? with
  | none => simp [ingestMetrics, ingestTable, found]
  | some old => cases txn <;> simp [ingestMetrics, ingestTable, found, putNode, Txn.answers, SharedState.put, Except.toOption]

theorem same_tables_of_cells (before after : SharedState F Bytes)
    (same : ∀ id, nodeCell after id = nodeCell before id) : SameTables before after :=
  ⟨Std.ExtTreeMap.ext_getElem? fun id => congrArg NodeCell.record (same id),
    Std.ExtTreeMap.ext_getElem? fun id => congrArg NodeCell.channel (same id),
    Std.ExtTreeMap.ext_getElem? fun id => congrArg NodeCell.row (same id)⟩

theorem put_twice (txn : Txn) (id : NodeId) (record : NodeRecord F) (state : SharedState F Bytes) :
    (state.put codec txn id record).put codec txn id record = state.put codec txn id record := by
  have table : (state.nodes.insert id record).insert id record = state.nodes.insert id record :=
    (insert_eq_self_iff _ id record).mpr (by simp)
  cases txn with
  | commits =>
      have disk := (insert_eq_self_iff (state.store.nodes.insert record.info.nodeId (codec.toVec record))
        record.info.nodeId (codec.toVec record)).mpr (by simp)
      simp only [SharedState.put, putNode, Except.toOption, Option.getD_some, table, disk]
  | fails message => simp only [SharedState.put, putNode, Except.toOption, Option.getD_none, table]

structure Reregisters (txn : Txn) (info : NodeInfo) (now : UInt64) (state : SharedState F Bytes) : Prop where
  idempotent : registerNode codec txn info now (registerNode codec txn info now state).2 = registerNode codec txn info now state
  sample : ∃ record, (registerNode codec txn info now state).2.nodes[info.nodeId]? = some record ∧
    record.latestMetrics = (state.nodes[info.nodeId]?).bind NodeRecord.latestMetrics
  others : ∀ id, info.nodeId ≠ id → nodeCell (registerNode codec txn info now state).2 id = nodeCell state id

theorem reregisters (txn : Txn) (info : NodeInfo) (now : UInt64) (state : SharedState F Bytes) :
    Reregisters codec txn info now state := by
  have here : (state.put codec txn info.nodeId (registeredRecord info now state.nodes[info.nodeId]?)).nodes[info.nodeId]? =
      some (registeredRecord info now state.nodes[info.nodeId]?) := by
    rw [SharedState.put, lookup_insert, if_pos rfl]
  have again : registeredRecord info now (some (registeredRecord info now state.nodes[info.nodeId]?)) =
      registeredRecord info now state.nodes[info.nodeId]? := rfl
  refine ⟨?_, ⟨registeredRecord info now state.nodes[info.nodeId]?, ?_, rfl⟩, ?_⟩
  · rw [register_node_put codec txn info now state, register_node_put, here, again, put_twice]
  · rw [register_node_put]
    exact here
  · intro id other
    rw [register_node_put, put_cell codec txn info.nodeId _ state rfl, if_neg other]

end Cells

section Operations

variable {F Bytes : Type} [F64 F] (codec : Codec (NodeRecord F) Bytes) (thresholds : Thresholds F)

def NodeOperation.nodeId : NodeOperation F → NodeId
  | .writing _ call => call.nodeId
  | .heartbeat nodeId _ => nodeId
  | .attach nodeId _ => nodeId
  | .detach nodeId => nodeId

def NodeOperation.perform (operation : NodeOperation F) (state : SharedState F Bytes) :
    Except HpcError (Answer F) × SharedState F Bytes :=
  match operation with
  | .writing txn call => (call.perform codec thresholds txn state).map (Except.map .replied) id
  | .heartbeat nodeId now => (Daemon.heartbeat nodeId now state).map (Except.map fun _ => .beaten) id
  | .attach nodeId channel => (.ok (.attached channel), attachCommandChannel nodeId channel state)
  | .detach nodeId => (.ok .detached, detachCommandChannel nodeId state)

abbrev Local (operation : NodeOperation F) : Prop :=
  Touches (nodeCell (F := F)) (fun state : SharedState F Bytes => OwnKeys state.nodes) operation.nodeId
    (operation.perform codec thresholds)

theorem register_local (txn : Txn) (info : NodeInfo) (now : UInt64) :
    Local codec thresholds (.writing txn (.register info now)) := by
  refine ⟨⟨fun cell => txn.answers (.replied (.registered (registeredRecord info now cell.record))), ?answers⟩,
    ⟨fun cell => cell.put codec txn (registeredRecord info now cell.record), ?changes⟩, ?keeps⟩
  case answers =>
    intro state own
    change ((registerNode codec txn info now state).1.map Reply.registered).map Answer.replied = _
    rw [register_node_put]
    cases txn <;> rfl
  case changes =>
    intro state own query
    change nodeCell (registerNode codec txn info now state).2 query = if info.nodeId = query then _ else _
    rw [register_node_put, put_cell codec txn info.nodeId _ state rfl]
    by_cases same : info.nodeId = query
    · rw [same]
      rfl
    · rw [if_neg same, if_neg same]
  case keeps =>
    intro state own
    change OwnKeys (registerNode codec txn info now state).2.nodes
    rw [register_node_put]
    exact own_keys_insert state.nodes info.nodeId _ own rfl

theorem ingest_local (txn : Txn) (report : MetricsReport F) (now : UInt64) :
    Local codec thresholds (.writing txn (.ingest report now)) := by
  refine ⟨⟨fun cell => match cell.record with
      | none => .error (unknownNode report.nodeId)
      | some _ => txn.answers (.replied .ingested), ?answers⟩,
    ⟨fun cell => match cell.record with
      | none => cell
      | some old => cell.put codec txn ⟨old.info, classify report thresholds, now, some report⟩, ?changes⟩, ?keeps⟩
  case answers =>
    intro state own
    change ((ingestMetrics codec thresholds txn report now state).1.map fun _ => Reply.ingested).map Answer.replied =
      match state.nodes[report.nodeId]? with
      | none => .error (unknownNode report.nodeId)
      | some _ => txn.answers (.replied .ingested)
    rw [ingest_metrics_put]
    cases found : state.nodes[report.nodeId]? with
    | none => rfl
    | some old => cases txn <;> rfl
  case changes =>
    intro state own query
    change nodeCell (ingestMetrics codec thresholds txn report now state).2 query = if report.nodeId = query then _ else _
    rw [ingest_metrics_put]
    cases found : state.nodes[report.nodeId]? with
    | none =>
        by_cases same : report.nodeId = query
        · rw [if_pos same]
          simp [nodeCell, ← same, found]
        · rw [if_neg same]
    | some old =>
        have key : old.info.nodeId = report.nodeId := own report.nodeId old found
        refine (put_cell codec txn report.nodeId ⟨old.info, classify report thresholds, now, some report⟩ state key
          query).trans ?_
        by_cases same : report.nodeId = query
        · rw [if_pos same, if_pos same]
          simp [nodeCell, ← same, found]
        · rw [if_neg same, if_neg same]
  case keeps =>
    intro state own
    change OwnKeys (ingestMetrics codec thresholds txn report now state).2.nodes
    rw [ingest_metrics_put]
    cases found : state.nodes[report.nodeId]? with
    | none => exact own
    | some old => exact own_keys_insert state.nodes report.nodeId _ own (own report.nodeId old found)

theorem deregister_local (txn : Txn) (nodeId : NodeId) : Local codec thresholds (.writing txn (.deregister nodeId)) := by
  refine ⟨⟨fun cell => txn.answers (.replied (.removed cell.record.isSome)), ?answers⟩,
    ⟨fun cell => ⟨none, none, txn.written cell.row none⟩, ?changes⟩, ?keeps⟩
  case answers =>
    intro state own
    cases txn with
    | commits => simp [NodeOperation.perform, Call.perform, deregisterNode, deregisterTable, deleteNode, Except.map,
        Txn.answers, nodeCell, NodeOperation.nodeId, Call.nodeId]
    | fails message => rfl
  case changes =>
    intro state own query
    change nodeCell (deregisterNode txn nodeId state).2 query = if nodeId = query then _ else _
    cases txn with
    | commits =>
        by_cases same : nodeId = query <;>
          simp [deregisterNode, deregisterTable, deleteNode, detachCommandChannel, nodeCell, lookup_erase, Txn.written, same]
    | fails message =>
        by_cases same : nodeId = query <;>
          simp [deregisterNode, deregisterTable, deleteNode, detachCommandChannel, nodeCell, lookup_erase, Txn.written, same]
  case keeps =>
    intro state own
    change OwnKeys (deregisterNode txn nodeId state).2.nodes
    rw [deregister_node_nodes]
    exact own_keys_erase state.nodes nodeId own

theorem heartbeat_local (nodeId : NodeId) (now : UInt64) : Local codec thresholds (.heartbeat nodeId now) := by
  refine ⟨⟨fun cell => match cell.record with
      | none => .error (unknownNode nodeId)
      | some _ => .ok .beaten, ?answers⟩,
    ⟨fun cell => { cell with record := cell.record.map fun record => { record with
      lastSeenUnix := now
      status := if record.status = .unreachable then .healthy else record.status } }, ?changes⟩, ?keeps⟩
  case answers =>
    intro state own
    change (heartbeat nodeId now state).1.map (fun _ => Answer.beaten) = match state.nodes[nodeId]? with
      | none => .error (unknownNode nodeId)
      | some _ => .ok .beaten
    cases found : state.nodes[nodeId]? with
    | none => simp [heartbeat, heartbeatTable, found, Except.map]
    | some record => simp [heartbeat, heartbeatTable, found, Except.map]
  case changes =>
    intro state own query
    change nodeCell (heartbeat nodeId now state).2 query = if nodeId = query then _ else _
    rw [heartbeat_next]
    simp only [nodeCell, heartbeat_table_lookup]
    by_cases same : nodeId = query
    · simp [same]
    · simp [same]
  case keeps =>
    intro state own
    change OwnKeys (heartbeat nodeId now state).2.nodes
    rw [heartbeat_next]
    refine own_keys_map state.nodes _ _ own ?_ (heartbeat_table_lookup nodeId now state.nodes)
    intro id record
    split <;> rfl

theorem attach_local (nodeId : NodeId) (channel : ChannelId) :
    Local codec thresholds (.attach nodeId channel) := by
  refine ⟨⟨fun _ => .ok (.attached channel), fun state own => rfl⟩, ⟨fun cell => { cell with channel := some channel }, ?_⟩,
    fun state own => own⟩
  intro state own query
  by_cases same : nodeId = query <;>
    simp [NodeOperation.perform, NodeOperation.nodeId, attachCommandChannel, nodeCell, lookup_insert, same]

theorem detach_local (nodeId : NodeId) : Local codec thresholds (.detach nodeId) := by
  refine ⟨⟨fun _ => .ok .detached, fun state own => rfl⟩, ⟨fun cell => { cell with channel := none }, ?_⟩,
    fun state own => own⟩
  intro state own query
  by_cases same : nodeId = query <;>
    simp [NodeOperation.perform, NodeOperation.nodeId, detachCommandChannel, nodeCell, lookup_erase, same]

theorem operation_local (operation : NodeOperation F) : Local codec thresholds operation := by
  cases operation with
  | writing txn call =>
      cases call with
      | register info now => exact register_local codec thresholds txn info now
      | ingest report now => exact ingest_local codec thresholds txn report now
      | deregister nodeId => exact deregister_local codec thresholds txn nodeId
  | heartbeat nodeId now => exact heartbeat_local codec thresholds nodeId now
  | attach nodeId channel => exact attach_local codec thresholds nodeId channel
  | detach nodeId => exact detach_local codec thresholds nodeId

def Commute (state : SharedState F Bytes) (one two : NodeOperation F) : Prop :=
  SameTables (two.perform codec thresholds (one.perform codec thresholds state).2).2
      (one.perform codec thresholds (two.perform codec thresholds state).2).2 ∧
    (one.perform codec thresholds (two.perform codec thresholds state).2).1 = (one.perform codec thresholds state).1 ∧
    (two.perform codec thresholds (one.perform codec thresholds state).2).1 = (two.perform codec thresholds state).1

theorem operations_commute (state : SharedState F Bytes) (own : OwnKeys state.nodes) (one two : NodeOperation F)
    (apart : one.nodeId ≠ two.nodeId) : Commute codec thresholds state one two := by
  obtain ⟨sameOne, sameTwo, cells⟩ := touches_commute nodeCell (fun state : SharedState F Bytes => OwnKeys state.nodes)
    one.nodeId two.nodeId _ _ (operation_local codec thresholds one) (operation_local codec thresholds two) apart state own
  exact ⟨same_tables_of_cells _ _ cells, sameOne, sameTwo⟩

end Operations

section Reachable

variable {F : Type} [F64 F] (serde : SerdeF64 F) (config : DaemonConfig F)

theorem node_operations_independent (start : SharedState F (Json F)) (phases : List (Phase F))
    (finish : Overlapped F (Json F)) (booted : bootstrap (jsonCodec serde) Store.fresh = .ok start)
    (ran : runFrom (overlapStep (jsonCodec serde) config) ⟨start, []⟩ phases = some finish) :
    (∀ one two : NodeOperation F, one.nodeId ≠ two.nodeId →
        Commute (jsonCodec serde) config.thresholds finish.daemon one two) ∧
      ∀ txn info now, Reregisters (jsonCodec serde) txn info now finish.daemon := by
  have own := run_own_keys serde config start phases finish booted ran
  exact ⟨fun one two apart => operations_commute (jsonCodec serde) config.thresholds finish.daemon own one two apart,
    fun txn info now => reregisters (jsonCodec serde) txn info now finish.daemon⟩

end Reachable

section Samples

def twoNodes : List (Phase ExactF64) :=
  [.update (.register (sampleInfo "n1") 1000), .transact 0 .commits, .attach "n1" 0, .restart,
    .update (.register (sampleInfo "n2") 1001)]

theorem two_nodes_run :
    (runFrom (overlapStep (jsonCodec exactSerde) sampleConfig) ⟨⟨∅, ∅, Store.fresh⟩, []⟩ twoNodes).isSome := by
  decide +kernel

theorem two_nodes_independent :
    (∀ one two : NodeOperation ExactF64, one.nodeId ≠ two.nodeId →
        Commute (jsonCodec exactSerde) sampleConfig.thresholds (Option.get _ two_nodes_run).daemon one two) ∧
      ∀ txn info now, Reregisters (jsonCodec exactSerde) txn info now (Option.get _ two_nodes_run).daemon :=
  node_operations_independent exactSerde sampleConfig ⟨∅, ∅, Store.fresh⟩ twoNodes _ rfl (Option.some_get two_nodes_run).symm

end Samples

end Hpc.Daemon
