import Hpc.Lib.Runs
import Hpc.Daemon.State

set_option autoImplicit false

namespace Hpc.Daemon

open Hpc.Core Hpc.Lib

-- The operations that write through are suspended between their two halves: the update of the table under the write lock,
-- and the store transaction.
inductive Call (F : Type) where
  | register (info : NodeInfo) (now : UInt64)
  | ingest (report : MetricsReport F) (now : UInt64)
  | deregister (nodeId : NodeId)

inductive Write (F : Type) where
  | put (record : NodeRecord F)
  | delete (nodeId : NodeId)

section Halves

variable {F Bytes : Type} (codec : Codec (NodeRecord F) Bytes)

def Write.nodeId : Write F → NodeId
  | .put record => record.info.nodeId
  | .delete nodeId => nodeId

def Write.record : Write F → Option (NodeRecord F)
  | .put record => some record
  | .delete _ => none

def Write.onTable (table : NodeTable F) : Write F → NodeTable F
  | .put record => table.insert record.info.nodeId record
  | .delete nodeId => table.erase nodeId

def Write.commit (store : Store Bytes) : Write F → Store Bytes
  | .put record => store.insertNode codec record
  | .delete nodeId => { store with nodes := store.nodes.erase nodeId }

theorem write_lookup (write : Write F) (table : NodeTable F) (query : NodeId) :
    (write.onTable table)[query]? = if write.nodeId = query then write.record else table[query]? := by
  cases write with
  | put record => exact lookup_insert _ _ _ _
  | delete nodeId => exact lookup_erase _ _ _

theorem write_rows (write : Write F) (table : NodeTable F) (store : Store Bytes) (written : store.nodes = rows codec table) :
    (write.commit codec store).nodes = rows codec (write.onTable table) := by
  cases write with
  | put record => rw [Write.onTable, rows_insert, ← written]; rfl
  | delete nodeId => rw [Write.onTable, rows_erase, ← written]; rfl

theorem write_own_keys (write : Write F) (table : NodeTable F) (own : OwnKeys table) : OwnKeys (write.onTable table) := by
  cases write with
  | put record => exact own_keys_insert table _ record own rfl
  | delete nodeId => exact own_keys_erase table nodeId own

variable [F64 F] (thresholds : Thresholds F)

def Call.nodeId : Call F → NodeId
  | .register info _ => info.nodeId
  | .ingest report _ => report.nodeId
  | .deregister nodeId => nodeId

def Call.reading (clock : UInt64) : Call F → UInt64
  | .register _ now => now
  | .ingest _ now => now
  | .deregister _ => clock

def Call.update (state : SharedState F Bytes) : Call F → Except HpcError (SharedState F Bytes × Write F)
  | .register info now =>
      let (nodes, record) := registerTable info now state.nodes
      .ok ({ state with nodes := nodes }, .put record)
  | .ingest report now =>
      (ingestTable thresholds report now state.nodes).map fun (nodes, record) => ({ state with nodes := nodes }, .put record)
  | .deregister nodeId =>
      .ok (detachCommandChannel nodeId { state with nodes := (deregisterTable nodeId state.nodes).1 }, .delete nodeId)

def Call.complete (state : SharedState F Bytes) : Call F → SharedState F Bytes
  | .register info now => (registerNode codec .commits info now state).2
  | .ingest report now => (ingestMetrics codec thresholds .commits report now state).2
  | .deregister nodeId => (deregisterNode .commits nodeId state).2

theorem call_complete (call : Call F) (state : SharedState F Bytes) :
    call.complete codec thresholds state =
      match call.update thresholds state with
      | .error _ => state
      | .ok (next, write) => { next with store := write.commit codec next.store } := by
  cases call with
  | register info now => rfl
  | ingest report now =>
      cases ingested : ingestTable thresholds report now state.nodes with
      | error failure => simp [Call.complete, Call.update, ingestMetrics, ingested, Except.map]
      | ok result =>
          simp [Call.complete, Call.update, ingestMetrics, ingested, Except.map, putNode, Write.commit, Store.insertNode]
  | deregister nodeId => rfl

theorem update_spec (call : Call F) (state next : SharedState F Bytes) (write : Write F) (own : OwnKeys state.nodes)
    (updated : call.update thresholds state = .ok (next, write)) :
    write.nodeId = call.nodeId ∧ next.nodes = write.onTable state.nodes ∧ next.store = state.store ∧
      ∀ record clock, write.record = some record → record.lastSeenUnix = call.reading clock := by
  cases call with
  | register info now =>
      simp only [Call.update, Except.ok.injEq, Prod.mk.injEq] at updated
      obtain ⟨rfl, rfl⟩ := updated
      have key : (registerTable info now state.nodes).2.info.nodeId = info.nodeId := by rw [register_table_record]
      refine ⟨key, by rw [Write.onTable, key]; rfl, rfl, ?_⟩
      intro record clock written
      cases written
      rw [register_table_record]
      rfl
  | ingest report now =>
      cases ingested : ingestTable thresholds report now state.nodes with
      | error failure => simp [Call.update, ingested, Except.map] at updated
      | ok result =>
          obtain ⟨nodes, record⟩ := result
          simp only [Call.update, ingested, Except.map, Except.ok.injEq, Prod.mk.injEq] at updated
          obtain ⟨rfl, rfl⟩ := updated
          obtain ⟨old, found, rfl, rfl⟩ := ingest_table_spec thresholds report now state.nodes nodes record ingested
          have key : old.info.nodeId = report.nodeId := own report.nodeId old found
          refine ⟨key, by rw [Write.onTable, key], rfl, ?_⟩
          intro record clock written
          cases written
          rfl
  | deregister nodeId =>
      simp only [Call.update, Except.ok.injEq, Prod.mk.injEq] at updated
      obtain ⟨rfl, rfl⟩ := updated
      exact ⟨rfl, rfl, rfl, fun record clock written => by cases written⟩

end Halves

end Hpc.Daemon
