import Hpc.Daemon.Overlap
import Hpc.Daemon.Durability

set_option autoImplicit false

namespace Hpc.Daemon

open Hpc.Core Hpc.Lib

section Listing

variable {F Bytes : Type}

-- The hash map gives its values in an order of its own, so the listing is a function of the order they come in.
def sortNodes (taken : List (NodeRecord F)) : List (NodeRecord F) :=
  taken.mergeSort fun a b => a.info.nodeId ≤ b.info.nodeId

def Enumerates (state : SharedState F Bytes) (taken : List (NodeRecord F)) : Prop := taken.Perm (values state.nodes)

end Listing

section Integrity

variable {F : Type}

def Kept (id : NodeId) (record : NodeRecord F) : Prop :=
  record.info.nodeId = id ∧ ∀ report, record.latestMetrics = some report → report.nodeId = id

theorem erase_kept (id : NodeId) (record loaded : NodeRecord F) (same : loaded.erase = record.erase) (kept : Kept id record) :
    Kept id loaded := by
  have info : loaded.info = record.info := congrArg (NodeRecord.info (F := Unit)) same
  have sample : loaded.latestMetrics.map MetricsReport.erase = record.latestMetrics.map MetricsReport.erase :=
    congrArg (NodeRecord.latestMetrics (F := Unit)) same
  apply And.intro (info ▸ kept.1)
  intro report latest
  rw [latest, Option.map_some, eq_comm, Option.map_eq_some_iff] at sample
  obtain ⟨origin, held, alike⟩ := sample
  have sameId : origin.nodeId = report.nodeId := congrArg (MetricsReport.nodeId (F := Unit)) alike
  rw [← sameId]
  exact kept.2 origin held

variable [F64 F] (serde : SerdeF64 F)

theorem kept_rows (thresholds : Thresholds F) : RowInvariant (jsonCodec serde) thresholds Kept where
  keyed id record kept := kept.1
  registers info now old kept := by
    apply And.intro rfl
    intro report latest
    obtain ⟨record, found, held⟩ := Option.bind_eq_some_iff.mp latest
    exact (kept record found).2 report held
  ingests report now old kept := ⟨kept.1, fun sample latest => by cases latest; rfl⟩
  beats id record now kept := kept
  reaps id record kept := kept
  decodes id record loaded kept decoded := erase_kept id record loaded (decode_erase serde record loaded decoded) kept

structure Intact (state : SharedState F (Json F)) : Prop where
  memory : ∀ (id : NodeId) (record : NodeRecord F), state.nodes[id]? = some record → Kept id record
  disk : ∀ (id : NodeId) (value : Json F), state.store.nodes[id]? = some value →
    ∃ record, value = writeRecord serde record ∧ Kept id record ∧
      ∀ loaded, readRecord serde value = .ok loaded → Kept id loaded
  listed : ∀ taken, Enumerates state taken →
    (sortNodes taken).Perm (values state.nodes) ∧
      ((sortNodes taken).map fun record => record.info.nodeId).Perm state.nodes.keys ∧
      ((sortNodes taken).map fun record => record.info.nodeId).Pairwise (· < ·)
  loaded : ∀ records, loadNodes (jsonCodec serde) state.store = .ok records →
    records.map (fun record => record.info.nodeId) = state.store.nodes.keys ∧
      (records.map fun record => record.info.nodeId).Nodup

theorem intact_of_rows (state : SharedState F (Json F)) (memory : Rowwise Kept state.nodes)
    (disk : Rowwise (fun id bytes => ∃ record, bytes = (jsonCodec serde).toVec record ∧ Kept id record) state.store.nodes) :
    Intact serde state := by
  have keyed : SelfKeyed (fun record : NodeRecord F => record.info.nodeId) state.nodes :=
    fun id record found => (memory id record found).1
  refine ⟨memory, ?disk, ?listed, ?loaded⟩
  case disk =>
    intro id value found
    obtain ⟨record, rfl, kept⟩ := disk id value found
    refine ⟨record, rfl, kept, ?_⟩
    intro loaded read
    exact erase_kept id record loaded (decode_erase serde record loaded ((map_error_eq_ok_iff _ _ _).mpr read)) kept
  case listed =>
    intro taken all
    obtain ⟨same, ascending⟩ := sorted_values (fun record : NodeRecord F => record.info.nodeId) state.nodes keyed taken all
    refine ⟨same, ?_, ascending⟩
    rw [← values_keys _ state.nodes keyed]
    exact same.map _
  case loaded =>
    intro records loads
    have keys : records.map (fun record => record.info.nodeId) = state.store.nodes.keys := by
      rw [← Std.ExtTreeMap.map_fst_toList_eq_keys]
      refine mapM_observe_mem _ Prod.fst _ state.store.nodes.toList records ?_ loads
      intro ⟨id, value⟩ member record decoded
      obtain ⟨origin, rfl, kept⟩ := disk id value (Std.ExtTreeMap.mem_toList_iff_getElem?_eq_some.mp member)
      exact (erase_kept id origin record (decode_erase serde origin record decoded) kept).1
    apply And.intro keys
    rw [keys]
    exact Std.ExtTreeMap.distinct_keys.imp fun different same => different (by simp [same])

theorem run_own_keys (config : DaemonConfig F) (start : SharedState F (Json F)) (phases : List (Phase F))
    (finish : Overlapped F (Json F)) (booted : bootstrap (jsonCodec serde) Store.fresh = .ok start)
    (ran : runFrom (overlapStep (jsonCodec serde) config) ⟨start, []⟩ phases = some finish) :
    OwnKeys finish.daemon.nodes := by
  have rows := overlap_run_rows (jsonCodec serde) Kept config (kept_rows serde config.thresholds) start phases finish booted ran
  intro id record found
  exact (rows.memory id record found).1

theorem node_table_integrity (config : DaemonConfig F) (start : SharedState F (Json F)) (phases : List (Phase F))
    (finish : Overlapped F (Json F)) (booted : bootstrap (jsonCodec serde) Store.fresh = .ok start)
    (ran : runFrom (overlapStep (jsonCodec serde) config) ⟨start, []⟩ phases = some finish) :
    Intact serde finish.daemon := by
  have rows := overlap_run_rows (jsonCodec serde) Kept config (kept_rows serde config.thresholds) start phases finish booted ran
  exact intact_of_rows serde finish.daemon rows.memory rows.disk

end Integrity

section Samples

-- Two calls on one node commit the other way round, the first of them in vain, and the daemon is restarted.
def staleWrite : List (Phase ExactF64) :=
  [.update (.register (sampleInfo "n1") 1000), .update (.ingest (memoryReport "n1" 50) 1001), .transact 1 .commits,
    .transact 0 (.fails "No space left on device"), .restart, .heartbeat "n1" 1002]

theorem stale_write_runs :
    (runFrom (overlapStep (jsonCodec exactSerde) sampleConfig) ⟨⟨∅, ∅, Store.fresh⟩, []⟩ staleWrite).isSome := by
  decide +kernel

theorem stale_write_intact : Intact exactSerde (Option.get _ stale_write_runs).daemon :=
  node_table_integrity exactSerde sampleConfig ⟨∅, ∅, Store.fresh⟩ staleWrite _ rfl (Option.some_get stale_write_runs).symm

end Samples

end Hpc.Daemon
