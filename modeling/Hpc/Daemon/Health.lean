import Hpc.Daemon.Service

set_option autoImplicit false

namespace Hpc.Daemon

open Hpc.Core Hpc.Lib

section Breaches

variable {F : Type} [F64 F] (thresholds : Thresholds F)

def Breaching (record : NodeRecord F) : Prop :=
  ∃ report, record.latestMetrics = some report ∧ classify report thresholds = .degraded

def Flagged (record : NodeRecord F) : Prop :=
  record.status = .degraded ∨ record.status = .unreachable

def BreachesFlagged (nodes : NodeTable F) : Prop :=
  ∀ (id : NodeId) (record : NodeRecord F), nodes[id]? = some record → Breaching thresholds record → Flagged record

-- The two operations that set a status without looking at the sample are only called where the sample has nothing to say.
def KeepsFlags (nodes : NodeTable F) : Operation F → Prop
  | .register _ info _ => ∀ record, nodes[info.nodeId]? = some record → ¬ Breaching thresholds record
  | .heartbeat nodeId _ =>
      ∀ record, nodes[nodeId]? = some record → record.status = .unreachable → ¬ Breaching thresholds record
  | _ => True

theorem breaches_insert_iff (nodes : NodeTable F) (key : NodeId) (record : NodeRecord F)
    (before : BreachesFlagged thresholds nodes) :
    BreachesFlagged thresholds (nodes.insert key record) ↔ (Breaching thresholds record → Flagged record) := by
  apply Iff.intro
  · intro after
    exact after key record (by simp)
  · intro fresh id found present
    rw [lookup_insert] at present
    split at present
    · cases present
      exact fresh
    · exact before id found present

theorem register_breaches (info : NodeInfo) (now : UInt64) (nodes : NodeTable F)
    (before : BreachesFlagged thresholds nodes) :
    BreachesFlagged thresholds (registerTable info now nodes).1 ↔
      ∀ record, nodes[info.nodeId]? = some record → ¬ Breaching thresholds record := by
  have whole := breaches_insert_iff thresholds nodes info.nodeId (registerTable info now nodes).2 before
  refine whole.trans ?_
  rw [register_table_record]
  cases found : nodes[info.nodeId]? with
  | none => simp [Breaching]
  | some record => simp [Breaching, Flagged]

theorem heartbeat_breaches (nodeId : NodeId) (now : UInt64) (nodes : NodeTable F)
    (before : BreachesFlagged thresholds nodes) :
    BreachesFlagged thresholds (((heartbeatTable nodeId now nodes).toOption).getD nodes) ↔
      ∀ record, nodes[nodeId]? = some record → record.status = .unreachable → ¬ Breaching thresholds record := by
  cases beaten : heartbeatTable nodeId now nodes with
  | error failure =>
      have absent : nodes[nodeId]? = none := by
        cases found : nodes[nodeId]? with
        | none => rfl
        | some record => simp [heartbeatTable, found] at beaten
      simpa [Except.toOption, absent] using before
  | ok next =>
      obtain ⟨record, found, rfl⟩ := heartbeat_table_spec nodeId now nodes next beaten
      refine (breaches_insert_iff thresholds nodes nodeId _ before).trans ?_
      by_cases unseen : record.status = .unreachable
      · simp [found, unseen, Breaching, Flagged]
      · have flagged : Breaching thresholds record → Flagged record := before nodeId record found
        simpa [found, unseen, Breaching, Flagged] using flagged

theorem ingest_breaches (report : MetricsReport F) (now : UInt64) (nodes : NodeTable F)
    (before : BreachesFlagged thresholds nodes) :
    BreachesFlagged thresholds
      ((((ingestTable thresholds report now nodes).toOption).map Prod.fst).getD nodes) := by
  cases ingested : ingestTable thresholds report now nodes with
  | error failure => exact before
  | ok result =>
      obtain ⟨next, record⟩ := result
      obtain ⟨old, _, rfl, rfl⟩ := ingest_table_spec thresholds report now nodes next record ingested
      refine (breaches_insert_iff thresholds nodes report.nodeId _ before).mpr ?_
      rintro ⟨sample, latest, breach⟩
      cases latest
      exact Or.inl breach

theorem reap_breaches (nodeTimeoutSecs now : UInt64) (nodes : NodeTable F)
    (before : BreachesFlagged thresholds nodes) :
    BreachesFlagged thresholds (reapTable nodeTimeoutSecs now nodes).1 := by
  intro id record found breach
  rw [reap_table_lookup, Option.map_eq_some_iff] at found
  obtain ⟨old, present, rfl⟩ := found
  obtain ⟨_, _, sample⟩ := reap_record_fields (saturatingSub now nodeTimeoutSecs) old
  have oldFlagged : Flagged old := before id old present (by simpa only [Breaching, sample] using breach)
  rcases reap_record_status (saturatingSub now nodeTimeoutSecs) old with same | swept
  · simpa only [Flagged, same] using oldFlagged
  · exact Or.inr swept

theorem deregister_breaches (nodeId : NodeId) (nodes : NodeTable F) (before : BreachesFlagged thresholds nodes) :
    BreachesFlagged thresholds (deregisterTable nodeId nodes).1 := by
  intro id record found
  rw [deregister_table_lookup] at found
  split at found
  · cases found
  · exact before id record found

theorem unreachable_breaches (nodes : NodeTable F)
    (unseen : ∀ (id : NodeId) (record : NodeRecord F), nodes[id]? = some record → record.status = .unreachable) :
    BreachesFlagged thresholds nodes :=
  fun id record found _ => Or.inr (unseen id record found)

end Breaches

section Runs

variable {F Bytes : Type} [F64 F] (codec : Codec (NodeRecord F) Bytes) (config : DaemonConfig F)

theorem service_step_breaches (state next : SharedState F Bytes) (operation : Operation F)
    (before : BreachesFlagged config.thresholds state.nodes)
    (taken : serviceStep codec config state operation = some next) :
    BreachesFlagged config.thresholds next.nodes ↔ KeepsFlags config.thresholds state.nodes operation := by
  cases operation with
  | register txn info now =>
      cases taken
      rw [register_node_nodes]
      exact register_breaches config.thresholds info now state.nodes before
  | ingest txn report now =>
      cases taken
      rw [ingest_metrics_nodes]
      exact iff_of_true (ingest_breaches config.thresholds report now state.nodes before) trivial
  | heartbeat nodeId now =>
      cases taken
      rw [heartbeat_next]
      exact heartbeat_breaches config.thresholds nodeId now state.nodes before
  | reap now =>
      cases taken
      exact iff_of_true (reap_breaches config.thresholds _ now state.nodes before) trivial
  | deregister txn nodeId =>
      cases taken
      rw [deregister_node_nodes]
      exact iff_of_true (deregister_breaches config.thresholds nodeId state.nodes before) trivial
  | restart =>
      have booted : bootstrap codec state.store = .ok next := (to_option_eq_some_iff _ _).mp taken
      exact iff_of_true (unreachable_breaches config.thresholds next.nodes
        (bootstrap_unreachable codec state.store next booted)) trivial

theorem breaches_flagged_iff (store : Store Bytes) (start : SharedState F Bytes) (operations : List (Operation F))
    (booted : bootstrap codec store = .ok start) :
    Throughout (serviceStep codec config) (fun state => BreachesFlagged config.thresholds state.nodes) start operations ↔
      Obeys (serviceStep codec config) (fun state operation => KeepsFlags config.thresholds state.nodes operation)
        start operations :=
  throughout_iff_obeys (serviceStep codec config) (fun _ => True) _ _ (fun _ _ _ _ _ => trivial)
    (fun state operation next _ before taken => service_step_breaches codec config state next operation before taken)
    start operations trivial
    (unreachable_breaches config.thresholds start.nodes (bootstrap_unreachable codec store start booted))

end Runs

section Samples

def staleThenSeen : List (Operation ExactF64) :=
  [.register .commits (sampleInfo "n1") 1000, .ingest .commits (memoryReport "n1" 100) 1001, .reap 1100,
    .heartbeat "n1" 1101]

def afterStaleThenSeen : SharedState ExactF64 (Json ExactF64) :=
  (runFrom (serviceStep (jsonCodec exactSerde) sampleConfig) ⟨∅, ∅, Store.fresh⟩ staleThenSeen).getD ⟨∅, ∅, Store.fresh⟩

theorem breaches_flagged_fresh :
    Throughout (serviceStep (jsonCodec exactSerde) sampleConfig)
        (fun state => BreachesFlagged sampleConfig.thresholds state.nodes) ⟨∅, ∅, Store.fresh⟩ staleThenSeen ↔
      Obeys (serviceStep (jsonCodec exactSerde) sampleConfig)
        (fun state operation => KeepsFlags sampleConfig.thresholds state.nodes operation) ⟨∅, ∅, Store.fresh⟩ staleThenSeen :=
  breaches_flagged_iff (jsonCodec exactSerde) sampleConfig Store.fresh ⟨∅, ∅, Store.fresh⟩ staleThenSeen rfl

theorem heartbeat_hides_breach :
    bootstrap (jsonCodec exactSerde) Store.fresh = .ok ⟨∅, ∅, Store.fresh⟩ ∧
      runFrom (serviceStep (jsonCodec exactSerde) sampleConfig) ⟨∅, ∅, Store.fresh⟩ staleThenSeen =
        some afterStaleThenSeen ∧
      ∃ record, afterStaleThenSeen.nodes["n1"]? = some record ∧ Breaching sampleConfig.thresholds record ∧
        record.status = .healthy :=
  ⟨rfl, rfl, ⟨sampleInfo "n1", .healthy, 1101, some (memoryReport "n1" 100)⟩, by decide +kernel,
    ⟨memoryReport "n1" 100, rfl, by decide +kernel⟩, rfl⟩

end Samples

end Hpc.Daemon
