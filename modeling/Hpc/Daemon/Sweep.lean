import Hpc.Lib.Sweep
import Hpc.Daemon.Integrity
import Hpc.Daemon.Reaper

set_option autoImplicit false

namespace Hpc.Daemon

open Hpc.Core Hpc.Lib

structure ClusterState (F Bytes : Type) where
  state : SharedState F Bytes
  own : OwnKeys state.nodes

section Pass

variable {F Bytes : Type}

def due (cutoff : UInt64) (record : NodeRecord F) : Bool :=
  decide (record.lastSeenUnix < cutoff ∧ record.status ≠ .unreachable)

def silenced (record : NodeRecord F) : NodeRecord F := { record with status := .unreachable }

-- The hash map gives its values in an order of its own; all that is said of the reported ids holds in any order.
structure SweepEffect (nodeTimeoutSecs now : UInt64) (state : SharedState F Bytes) (reported : List NodeId)
    (after : SharedState F Bytes) : Prop where
  distinct : reported.Nodup
  stale : ∀ id, id ∈ reported ↔ ∃ record, state.nodes[id]? = some record ∧
    record.lastSeenUnix.toNat < now.toNat - nodeTimeoutSecs.toNat ∧ record.status ≠ .unreachable
  changed : ∀ id, id ∈ reported ↔ (after.nodes[id]?).map NodeRecord.status ≠ (state.nodes[id]?).map NodeRecord.status
  rows : ∀ id : NodeId, after.nodes[id]? = if id ∈ reported then (state.nodes[id]?).map silenced else state.nodes[id]?
  frame : after.channels = state.channels ∧ after.store = state.store

theorem due_iff (nodeTimeoutSecs now : UInt64) (record : NodeRecord F) :
    due (saturatingSub now nodeTimeoutSecs) record = true ↔
      record.lastSeenUnix.toNat < now.toNat - nodeTimeoutSecs.toNat ∧ record.status ≠ .unreachable := by
  rw [due, decide_eq_true_iff, UInt64.lt_iff_toNat_lt, saturating_sub_nat]

theorem reap_record_due (cutoff : UInt64) (record : NodeRecord F) :
    reapRecord cutoff record = if due cutoff record then silenced record else record := by
  simp [reapRecord, due, silenced]

theorem reap_table_sweep (nodeTimeoutSecs now : UInt64) (nodes : NodeTable F) :
    reapTable nodeTimeoutSecs now nodes =
      sweep (fun record => record.info.nodeId) (due (saturatingSub now nodeTimeoutSecs)) silenced nodes := by
  simp only [reapTable, sweep, values, reap_record_due]
  rfl

theorem reap_settles (nodeTimeoutSecs first second : UInt64) (ordered : first ≤ second) :
    Settles (fun record : NodeRecord F => record.info.nodeId) (due (saturatingSub first nodeTimeoutSecs))
      (due (saturatingSub second nodeTimeoutSecs)) silenced where
  keeps record := rfl
  grows record := by
    have later := UInt64.le_iff_toNat_le.mp ordered
    rw [due_iff, due_iff]
    intro stale
    exact ⟨by omega, stale.2⟩
  settled record := by simp [due, silenced]

theorem sweep_effect (nodeTimeoutSecs now : UInt64) (state : SharedState F Bytes) (own : OwnKeys state.nodes) :
    SweepEffect nodeTimeoutSecs now state (reapStale nodeTimeoutSecs now state).1 (reapStale nodeTimeoutSecs now state).2 := by
  have pass := reap_table_sweep nodeTimeoutSecs now state.nodes
  have reported (id : NodeId) : id ∈ (reapStale nodeTimeoutSecs now state).1 ↔
      ∃ record, state.nodes[id]? = some record ∧ due (saturatingSub now nodeTimeoutSecs) record = true := by
    rw [reapStale, pass]
    exact mem_sweep _ _ silenced state.nodes own id
  have row (id : NodeId) : (reapStale nodeTimeoutSecs now state).2.nodes[id]? = (state.nodes[id]?).map fun record =>
      if due (saturatingSub now nodeTimeoutSecs) record then silenced record else record := by
    rw [reapStale, pass]
    exact sweep_lookup (fun record : NodeRecord F => record.info.nodeId) _ silenced state.nodes id
  refine ⟨?_, ?_, ?_, ?_, rfl, rfl⟩
  · rw [reapStale, pass]
    exact sweep_nodup _ _ silenced state.nodes own
  · intro id
    simp only [reported, due_iff]
  · intro id
    rw [reported, row]
    cases found : state.nodes[id]? with
    | none => simp
    | some record =>
        cases stale : due (saturatingSub now nodeTimeoutSecs) record with
        | false => simp [stale]
        | true =>
            have reachable := ((due_iff nodeTimeoutSecs now record).mp stale).2
            simp [stale, silenced, Ne.symm reachable]
  · intro id
    simp only [row, reported]
    cases found : state.nodes[id]? with
    | none => simp
    | some record => by_cases stale : due (saturatingSub now nodeTimeoutSecs) record = true <;> simp [stale]

theorem reap_stale_own (nodeTimeoutSecs now : UInt64) (state : SharedState F Bytes) (own : OwnKeys state.nodes) :
    OwnKeys (reapStale nodeTimeoutSecs now state).2.nodes := by
  rw [reapStale, reap_table_sweep]
  exact sweep_keyed _ _ silenced state.nodes (fun _ => rfl) own

theorem reap_stale_again (nodeTimeoutSecs now : UInt64) (state : SharedState F Bytes) (own : OwnKeys state.nodes) :
    reapStale nodeTimeoutSecs now (reapStale nodeTimeoutSecs now state).2 = ([], (reapStale nodeTimeoutSecs now state).2) := by
  have again := sweep_again _ _ silenced state.nodes (reap_settles nodeTimeoutSecs now now (UInt64.le_refl now)) own
  simp only [reapStale, reap_table_sweep, again]

theorem reap_stale_twice (nodeTimeoutSecs first second : UInt64) (ordered : first ≤ second) (state : SharedState F Bytes)
    (own : OwnKeys state.nodes) :
    (reapStale nodeTimeoutSecs second (reapStale nodeTimeoutSecs first state).2).2 =
        (reapStale nodeTimeoutSecs second state).2 ∧
      ((reapStale nodeTimeoutSecs first state).1 ++
          (reapStale nodeTimeoutSecs second (reapStale nodeTimeoutSecs first state).2).1).Perm
        (reapStale nodeTimeoutSecs second state).1 := by
  have settles := reap_settles (F := F) nodeTimeoutSecs first second ordered
  have table := sweep_sweep_table _ _ _ silenced state.nodes settles
  have report := sweep_sweep_report _ _ _ silenced state.nodes settles own
  simp only [reapStale, reap_table_sweep]
  exact ⟨by rw [table], report⟩

theorem sweeps_exact_and_compose (cluster : ClusterState F Bytes) (nodeTimeoutSecs first second : UInt64)
    (ordered : first ≤ second) :
    SweepEffect nodeTimeoutSecs first cluster.state (reapStale nodeTimeoutSecs first cluster.state).1
        (reapStale nodeTimeoutSecs first cluster.state).2 ∧
      reapStale nodeTimeoutSecs first (reapStale nodeTimeoutSecs first cluster.state).2 =
        ([], (reapStale nodeTimeoutSecs first cluster.state).2) ∧
      (reapStale nodeTimeoutSecs second (reapStale nodeTimeoutSecs first cluster.state).2).2 =
        (reapStale nodeTimeoutSecs second cluster.state).2 ∧
      ((reapStale nodeTimeoutSecs first cluster.state).1 ++
          (reapStale nodeTimeoutSecs second (reapStale nodeTimeoutSecs first cluster.state).2).1).Perm
        (reapStale nodeTimeoutSecs second cluster.state).1 := by
  have effect := sweep_effect nodeTimeoutSecs first cluster.state cluster.own
  have again := reap_stale_again nodeTimeoutSecs first cluster.state cluster.own
  have twice := reap_stale_twice nodeTimeoutSecs first second ordered cluster.state cluster.own
  exact ⟨effect, again, twice⟩

def reaperLoop (nodeTimeoutSecs : UInt64) : List UInt64 → SharedState F Bytes → List NodeId × SharedState F Bytes
  | [], state => ([], state)
  | now :: ticks, state =>
      let swept := reapStale nodeTimeoutSecs now state
      let rest := reaperLoop nodeTimeoutSecs ticks swept.2
      (swept.1 ++ rest.1, rest.2)

theorem reaper_loop_once (nodeTimeoutSecs now : UInt64) (ticks : List UInt64) (ordered : (now :: ticks).Pairwise (· ≤ ·))
    (state : SharedState F Bytes) (own : OwnKeys state.nodes) :
    (reaperLoop nodeTimeoutSecs (now :: ticks) state).2 =
        (reapStale nodeTimeoutSecs ((now :: ticks).getLast (List.cons_ne_nil now ticks)) state).2 ∧
      (reaperLoop nodeTimeoutSecs (now :: ticks) state).1.Perm
        (reapStale nodeTimeoutSecs ((now :: ticks).getLast (List.cons_ne_nil now ticks)) state).1 := by
  induction ticks generalizing now state with
  | nil => simp [reaperLoop]
  | cons next ticks ih =>
      obtain ⟨below, later⟩ := List.pairwise_cons.mp ordered
      have last := below _ (List.getLast_mem (List.cons_ne_nil next ticks))
      have swept := reap_stale_own nodeTimeoutSecs now state own
      obtain ⟨table, report⟩ := ih next later (reapStale nodeTimeoutSecs now state).2 swept
      obtain ⟨same, joined⟩ := reap_stale_twice nodeTimeoutSecs now _ last state own
      rw [List.getLast_cons (List.cons_ne_nil next ticks), reaperLoop]
      apply And.intro
      · exact table.trans same
      · exact (report.append_left _).trans joined

end Pass

section Reachable

variable {F : Type} [F64 F] (serde : SerdeF64 F) (config : DaemonConfig F)

def ClusterState.ofRun (start : SharedState F (Json F)) (phases : List (Phase F)) (finish : Overlapped F (Json F))
    (booted : bootstrap (jsonCodec serde) Store.fresh = .ok start)
    (ran : runFrom (overlapStep (jsonCodec serde) config) ⟨start, []⟩ phases = some finish) :
    ClusterState F (Json F) where
  state := finish.daemon
  own := run_own_keys serde config start phases finish booted ran

end Reachable

section Samples

-- Two sweeps of a node last heard of at second 5, the first too early for it.
def quietCluster : ClusterState ExactF64 (Json ExactF64) where
  state := ⟨(∅ : NodeTable ExactF64).insert "n1" ⟨sampleInfo "n1", .healthy, 5, none⟩, ∅, Store.fresh⟩
  own := own_keys_insert ∅ "n1" _ (by simp [OwnKeys]) rfl

theorem quiet_cluster_swept :
    SweepEffect 30 20 quietCluster.state (reapStale 30 20 quietCluster.state).1 (reapStale 30 20 quietCluster.state).2 ∧
      reapStale 30 20 (reapStale 30 20 quietCluster.state).2 = ([], (reapStale 30 20 quietCluster.state).2) ∧
      (reapStale 30 40 (reapStale 30 20 quietCluster.state).2).2 = (reapStale 30 40 quietCluster.state).2 ∧
      ((reapStale 30 20 quietCluster.state).1 ++ (reapStale 30 40 (reapStale 30 20 quietCluster.state).2).1).Perm
        (reapStale 30 40 quietCluster.state).1 :=
  sweeps_exact_and_compose quietCluster 30 20 40 (by decide)

end Samples

end Hpc.Daemon
