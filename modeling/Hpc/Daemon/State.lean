import Hpc.Lib.Keyed
import Hpc.Core.Config
import Hpc.Daemon.Store

set_option autoImplicit false

namespace Hpc.Daemon

open Hpc.Core Hpc.Lib

-- The sending half of a command channel, known by the number of the attach call that made it.
abbrev ChannelId := Nat

inductive NodeCommand where
  | deploy (spec : DeploySpec)
  | fs (spec : FsSpec)
deriving DecidableEq

def NodeCommand.commandId : NodeCommand → String
  | .deploy d => d.deploymentId
  | .fs f => f.commandId

abbrev NodeTable (F : Type) := StrMap (NodeRecord F)

-- What the critical sections under the write lock do to the node table. The store transaction comes after the lock is
-- released, so it is kept apart.
section Table

variable {F : Type}

def unknownNode (nodeId : NodeId) : HpcError := .notFound ("unknown node " ++ nodeId)

def registerTable (info : NodeInfo) (now : UInt64) (nodes : NodeTable F) : NodeTable F × NodeRecord F :=
  let entry := (nodes[info.nodeId]?).getD (NodeRecord.new info now)
  let record := { entry with info := info, status := .registered, lastSeenUnix := now }
  (nodes.insert info.nodeId record, record)

def heartbeatTable (nodeId : NodeId) (now : UInt64) (nodes : NodeTable F) : Except HpcError (NodeTable F) :=
  match nodes[nodeId]? with
  | none => .error (unknownNode nodeId)
  | some record =>
      let status := if record.status = .unreachable then .healthy else record.status
      .ok (nodes.insert nodeId { record with lastSeenUnix := now, status := status })

def reapRecord (cutoff : UInt64) (record : NodeRecord F) : NodeRecord F :=
  if record.lastSeenUnix < cutoff ∧ record.status ≠ .unreachable then { record with status := .unreachable }
  else record

def reapTable (nodeTimeoutSecs now : UInt64) (nodes : NodeTable F) : NodeTable F × List NodeId :=
  let cutoff := saturatingSub now nodeTimeoutSecs
  let changed := (nodes.toList.map Prod.snd).filter fun record =>
    decide (record.lastSeenUnix < cutoff ∧ record.status ≠ .unreachable)
  (nodes.map fun _ record => reapRecord cutoff record, changed.map fun record => record.info.nodeId)

def deregisterTable (nodeId : NodeId) (nodes : NodeTable F) : NodeTable F × Bool :=
  (nodes.erase nodeId, nodes.contains nodeId)

variable [F64 F]

def classify (report : MetricsReport F) (thresholds : Thresholds F) : NodeStatus :=
  if F64.ge (F64.div report.cpu.usagePercent (F64.ofU64 100)) thresholds.cpuDegraded then .degraded
  else if F64.ge report.memory.usedFraction thresholds.memoryDegraded then .degraded
  else if report.disks.any fun disk => F64.ge disk.usedFraction thresholds.diskDegraded then .degraded
  else .healthy

def ingestTable (thresholds : Thresholds F) (report : MetricsReport F) (now : UInt64) (nodes : NodeTable F) :
    Except HpcError (NodeTable F × NodeRecord F) :=
  match nodes[report.nodeId]? with
  | none => .error (unknownNode report.nodeId)
  | some record =>
      let updated := { record with
        status := classify report thresholds
        lastSeenUnix := now
        latestMetrics := some report }
      .ok (nodes.insert report.nodeId updated, updated)

end Table

-- One handle on all daemon state. The configuration never changes in a run.
structure SharedState (F Bytes : Type) where
  nodes : NodeTable F
  channels : StrMap ChannelId
  store : Store Bytes

section Operations

variable {F Bytes : Type} (codec : Codec (NodeRecord F) Bytes)

-- A hydrated record has not been seen in this run of the daemon.
def hydrate (nodes : NodeTable F) (record : NodeRecord F) : NodeTable F :=
  nodes.insert record.info.nodeId { record with status := .unreachable }

def bootstrap (store : Store Bytes) : Except HpcError (SharedState F Bytes) := do
  let records ← loadNodes codec store
  return ⟨records.foldl hydrate ∅, ∅, store⟩

-- Each operation returns its result together with the state it leaves, because an error from the store does not undo what
-- was done in memory.
def registerNode (txn : Txn) (info : NodeInfo) (now : UInt64) (state : SharedState F Bytes) :
    Except HpcError (NodeRecord F) × SharedState F Bytes :=
  let (nodes, record) := registerTable info now state.nodes
  match putNode codec txn record state.store with
  | .error failure => (.error failure, { state with nodes := nodes })
  | .ok store => (.ok record, { state with nodes := nodes, store := store })

def heartbeat (nodeId : NodeId) (now : UInt64) (state : SharedState F Bytes) :
    Except HpcError Unit × SharedState F Bytes :=
  match heartbeatTable nodeId now state.nodes with
  | .error failure => (.error failure, state)
  | .ok nodes => (.ok (), { state with nodes := nodes })

def reapStale (nodeTimeoutSecs now : UInt64) (state : SharedState F Bytes) :
    List NodeId × SharedState F Bytes :=
  let (nodes, changed) := reapTable nodeTimeoutSecs now state.nodes
  (changed, { state with nodes := nodes })

def attachCommandChannel (nodeId : NodeId) (channel : ChannelId) (state : SharedState F Bytes) : SharedState F Bytes :=
  { state with channels := state.channels.insert nodeId channel }

def detachCommandChannel (nodeId : NodeId) (state : SharedState F Bytes) : SharedState F Bytes :=
  { state with channels := state.channels.erase nodeId }

def deregisterNode (txn : Txn) (nodeId : NodeId) (state : SharedState F Bytes) :
    Except HpcError Bool × SharedState F Bytes :=
  let (nodes, removed) := deregisterTable nodeId state.nodes
  let state := detachCommandChannel nodeId { state with nodes := nodes }
  match deleteNode txn nodeId state.store with
  | .error failure => (.error failure, state)
  | .ok (_, store) => (.ok removed, { state with store := store })

variable [F64 F]

def ingestMetrics (thresholds : Thresholds F) (txn : Txn) (report : MetricsReport F) (now : UInt64)
    (state : SharedState F Bytes) : Except HpcError Unit × SharedState F Bytes :=
  match ingestTable thresholds report now state.nodes with
  | .error failure => (.error failure, state)
  | .ok (nodes, record) =>
      match putNode codec txn record state.store with
      | .error failure => (.error failure, { state with nodes := nodes })
      | .ok store => (.ok (), { state with nodes := nodes, store := store })

end Operations

section Lookups

variable {F : Type}

theorem register_table_record (info : NodeInfo) (now : UInt64) (nodes : NodeTable F) :
    (registerTable info now nodes).2 =
      ⟨info, .registered, now, (nodes[info.nodeId]?).bind NodeRecord.latestMetrics⟩ := by
  rw [registerTable]
  cases nodes[info.nodeId]? <;> rfl

theorem register_table_lookup (info : NodeInfo) (now : UInt64) (nodes : NodeTable F) (query : NodeId) :
    (registerTable info now nodes).1[query]? =
      if info.nodeId = query then some (registerTable info now nodes).2 else nodes[query]? :=
  lookup_insert _ _ _ _

theorem heartbeat_table_spec (nodeId : NodeId) (now : UInt64) (nodes next : NodeTable F)
    (beaten : heartbeatTable nodeId now nodes = .ok next) :
    ∃ record, nodes[nodeId]? = some record ∧ next = nodes.insert nodeId { record with
      lastSeenUnix := now
      status := if record.status = .unreachable then .healthy else record.status } := by
  rw [heartbeatTable] at beaten
  cases found : nodes[nodeId]? with
  | none => simp [found] at beaten
  | some record =>
      simp only [found, Except.ok.injEq] at beaten
      exact ⟨record, rfl, beaten.symm⟩

theorem heartbeat_table_lookup (nodeId : NodeId) (now : UInt64) (nodes : NodeTable F) (query : NodeId) :
    (((heartbeatTable nodeId now nodes).toOption).getD nodes)[query]? = (nodes[query]?).map fun record =>
      if nodeId = query then { record with
        lastSeenUnix := now
        status := if record.status = .unreachable then .healthy else record.status } else record := by
  cases beaten : heartbeatTable nodeId now nodes with
  | error failure =>
      have absent : nodes[nodeId]? = none := by
        cases found : nodes[nodeId]? with
        | none => rfl
        | some record => simp [heartbeatTable, found] at beaten
      change nodes[query]? = _
      by_cases same : nodeId = query
      · rw [← same, absent, Option.map_none]
      · simp [same]
  | ok next =>
      obtain ⟨record, found, rfl⟩ := heartbeat_table_spec nodeId now nodes next beaten
      change (nodes.insert nodeId _)[query]? = _
      rw [lookup_insert]
      by_cases same : nodeId = query
      · rw [if_pos same, ← same, found]
        simp
      · simp [same]

theorem ingest_table_spec [F64 F] (thresholds : Thresholds F) (report : MetricsReport F) (now : UInt64)
    (nodes next : NodeTable F) (record : NodeRecord F)
    (ingested : ingestTable thresholds report now nodes = .ok (next, record)) :
    ∃ old, nodes[report.nodeId]? = some old ∧ next = nodes.insert report.nodeId record ∧
      record = ⟨old.info, classify report thresholds, now, some report⟩ := by
  rw [ingestTable] at ingested
  cases found : nodes[report.nodeId]? with
  | none => simp [found] at ingested
  | some old =>
      simp only [found, Except.ok.injEq, Prod.mk.injEq] at ingested
      obtain ⟨rfl, rfl⟩ := ingested
      exact ⟨old, rfl, rfl, rfl⟩

theorem ingest_table_lookup [F64 F] (thresholds : Thresholds F) (report : MetricsReport F) (now : UInt64)
    (nodes : NodeTable F) (query : NodeId) :
    ((((ingestTable thresholds report now nodes).toOption).map Prod.fst).getD nodes)[query]? =
      if report.nodeId = query then (nodes[query]?).map fun old => ⟨old.info, classify report thresholds, now, some report⟩
      else nodes[query]? := by
  cases found : nodes[report.nodeId]? with
  | none =>
      have refused : ingestTable thresholds report now nodes = .error (unknownNode report.nodeId) := by
        rw [ingestTable, found]
      rw [refused]
      by_cases same : report.nodeId = query
      · rw [if_pos same, ← same, found]
        exact found
      · rw [if_neg same]
        rfl
  | some old =>
      have taken : ingestTable thresholds report now nodes = .ok (nodes.insert report.nodeId
          ⟨old.info, classify report thresholds, now, some report⟩, ⟨old.info, classify report thresholds, now, some report⟩) := by
        rw [ingestTable, found]
      rw [taken]
      change (nodes.insert report.nodeId _)[query]? = _
      rw [lookup_insert]
      by_cases same : report.nodeId = query
      · rw [if_pos same, if_pos same, ← same, found]
        rfl
      · rw [if_neg same, if_neg same]

theorem reap_table_lookup (nodeTimeoutSecs now : UInt64) (nodes : NodeTable F) (query : NodeId) :
    (reapTable nodeTimeoutSecs now nodes).1[query]? =
      (nodes[query]?).map (reapRecord (saturatingSub now nodeTimeoutSecs)) := by
  simp [reapTable]

theorem deregister_table_lookup (nodeId : NodeId) (nodes : NodeTable F) (query : NodeId) :
    (deregisterTable nodeId nodes).1[query]? = if nodeId = query then none else nodes[query]? :=
  lookup_erase _ _ _

theorem reap_record_fields (cutoff : UInt64) (record : NodeRecord F) :
    (reapRecord cutoff record).info = record.info ∧ (reapRecord cutoff record).lastSeenUnix = record.lastSeenUnix ∧
      (reapRecord cutoff record).latestMetrics = record.latestMetrics := by
  rw [reapRecord]
  split <;> exact ⟨rfl, rfl, rfl⟩

theorem reap_record_status (cutoff : UInt64) (record : NodeRecord F) :
    (reapRecord cutoff record).status = record.status ∨ (reapRecord cutoff record).status = .unreachable := by
  rw [reapRecord]
  split
  · exact Or.inr rfl
  · exact Or.inl rfl

end Lookups

-- A table as the rows of the store: what is on disk once each of its records has been written and nothing else.
section Rows

variable {F Bytes : Type} (codec : Codec (NodeRecord F) Bytes)

def rows (table : NodeTable F) : StrMap Bytes := table.map fun _ record => codec.toVec record

def OwnKeys (table : NodeTable F) : Prop :=
  ∀ (id : NodeId) (record : NodeRecord F), table[id]? = some record → record.info.nodeId = id

theorem rows_lookup (table : NodeTable F) (query : NodeId) : (rows codec table)[query]? = (table[query]?).map codec.toVec := by
  simp [rows]

theorem rows_insert (table : NodeTable F) (id : NodeId) (record : NodeRecord F) :
    rows codec (table.insert id record) = (rows codec table).insert id (codec.toVec record) :=
  map_insert table id record codec.toVec

theorem rows_erase (table : NodeTable F) (id : NodeId) : rows codec (table.erase id) = (rows codec table).erase id :=
  map_erase table id codec.toVec

theorem own_keys_insert (table : NodeTable F) (id : NodeId) (record : NodeRecord F) (own : OwnKeys table)
    (key : record.info.nodeId = id) : OwnKeys (table.insert id record) :=
  rowwise_insert _ table id record own key

theorem own_keys_erase (table : NodeTable F) (id : NodeId) (own : OwnKeys table) : OwnKeys (table.erase id) :=
  rowwise_erase _ table id own

theorem own_keys_map (before after : NodeTable F) (change : NodeId → NodeRecord F → NodeRecord F) (own : OwnKeys before)
    (keeps : ∀ id record, (change id record).info = record.info)
    (changed : ∀ id : NodeId, after[id]? = (before[id]?).map (change id)) : OwnKeys after :=
  rowwise_map _ before after change own (fun id record key => by rw [keeps, key]) changed

theorem load_nodes_rows (store : Store Bytes) (table : NodeTable F) (written : store.nodes = rows codec table) :
    loadNodes codec store = (table.toList.map Prod.snd).mapM fun record => decodeNode codec (codec.toVec record) := by
  rw [loadNodes, written, rows, Std.ExtTreeMap.toList_map, List.mapM_map, List.mapM_map]
  rfl

-- Of several records with one id the last one loaded stays.
theorem hydrate_lookup (records : List (NodeRecord F)) (nodes : NodeTable F) (id : NodeId) :
    (records.foldl hydrate nodes)[id]? =
      ((records.reverse.find? fun record => decide (record.info.nodeId = id)).map fun record =>
        { record with status := NodeStatus.unreachable }).or nodes[id]? := by
  induction records generalizing nodes with
  | nil => simp
  | cons head rest ih =>
      rw [List.foldl_cons, ih (hydrate nodes head), List.reverse_cons, List.find?_append, hydrate, lookup_insert]
      by_cases same : head.info.nodeId = id
      · cases rest.reverse.find? fun record => decide (record.info.nodeId = id) <;> simp [same]
      · cases rest.reverse.find? fun record => decide (record.info.nodeId = id) <;> simp [same]

end Rows

section Success

variable {F Bytes : Type} (codec : Codec (NodeRecord F) Bytes)

def Store.insertNode (store : Store Bytes) (record : NodeRecord F) : Store Bytes :=
  { store with nodes := store.nodes.insert record.info.nodeId (codec.toVec record) }

theorem register_node_ok (txn : Txn) (info : NodeInfo) (now : UInt64) (state next : SharedState F Bytes)
    (record : NodeRecord F) (done : registerNode codec txn info now state = (.ok record, next)) :
    record = (registerTable info now state.nodes).2 ∧
      next = ⟨(registerTable info now state.nodes).1, state.channels, state.store.insertNode codec record⟩ := by
  rw [registerNode] at done
  cases txn with
  | fails message => simp [putNode] at done
  | commits =>
      simp only [putNode, Prod.mk.injEq, Except.ok.injEq] at done
      obtain ⟨rfl, rfl⟩ := done
      exact ⟨rfl, rfl⟩

theorem ingest_metrics_ok [F64 F] (thresholds : Thresholds F) (txn : Txn) (report : MetricsReport F) (now : UInt64)
    (state next : SharedState F Bytes)
    (done : ingestMetrics codec thresholds txn report now state = (.ok (), next)) :
    ∃ old, state.nodes[report.nodeId]? = some old ∧
      next = ⟨state.nodes.insert report.nodeId ⟨old.info, classify report thresholds, now, some report⟩, state.channels,
        state.store.insertNode codec ⟨old.info, classify report thresholds, now, some report⟩⟩ := by
  rw [ingestMetrics] at done
  cases ingested : ingestTable thresholds report now state.nodes with
  | error failure => simp [ingested] at done
  | ok result =>
      obtain ⟨nodes, record⟩ := result
      obtain ⟨old, found, rfl, rfl⟩ := ingest_table_spec thresholds report now state.nodes nodes record ingested
      refine ⟨old, found, ?_⟩
      cases txn with
      | fails message => simp [ingested, putNode] at done
      | commits =>
          simp only [ingested, putNode, Prod.mk.injEq, true_and] at done
          exact done.symm

end Success

end Hpc.Daemon
