import Hpc.Daemon.Grpc
import Hpc.Daemon.Integrity

set_option autoImplicit false

namespace Hpc.Daemon

open Hpc.Core Hpc.Lib

structure ClusterStatus where
  epoch : UInt64
  totalNodes : Nat
  healthy : Nat
  degraded : Nat
  unreachable : Nat
  connectedStreams : Nat
  serverTimeUnix : UInt64

structure Tally where
  healthy : Nat
  degraded : Nat
  unreachable : Nat

section Status

variable {F Bytes : Type}

-- A draining node is counted nowhere.
def tallyNode (tally : Tally) (node : NodeRecord F) : Tally :=
  match node.status with
  | .healthy => { tally with healthy := tally.healthy + 1 }
  | .registered => { tally with healthy := tally.healthy + 1 }
  | .degraded => { tally with degraded := tally.degraded + 1 }
  | .unreachable => { tally with unreachable := tally.unreachable + 1 }
  | .draining => tally

def tallyNodes (nodes : List (NodeRecord F)) : Tally := nodes.foldl tallyNode ⟨0, 0, 0⟩

def clusterStatus (daemon : Instance) (nodes : List (NodeRecord F)) (connectedCount : Nat) (now : UInt64) : ClusterStatus :=
  let tally := tallyNodes nodes
  ⟨daemon.epoch, nodes.length, tally.healthy, tally.degraded, tally.unreachable, connectedCount, now⟩

def standing (nodes : List (NodeRecord F)) (statuses : List NodeStatus) : Nat :=
  nodes.countP fun node => decide (node.status ∈ statuses)

theorem standing_cons (node : NodeRecord F) (rest : List (NodeRecord F)) (statuses : List NodeStatus) :
    standing (node :: rest) statuses = standing rest statuses + if node.status ∈ statuses then 1 else 0 := by
  simp [standing, List.countP_cons]

theorem tally_fold (nodes : List (NodeRecord F)) (start : Tally) :
    nodes.foldl tallyNode start = ⟨start.healthy + standing nodes [.healthy, .registered],
      start.degraded + standing nodes [.degraded], start.unreachable + standing nodes [.unreachable]⟩ := by
  induction nodes generalizing start with
  | nil => rfl
  | cons node rest ih =>
      rw [List.foldl_cons, ih, standing_cons, standing_cons, standing_cons]
      cases status : node.status <;> simp [tallyNode, status] <;> omega

theorem standing_total (nodes : List (NodeRecord F)) (serving : ∀ node ∈ nodes, node.status ≠ .draining) :
    standing nodes [.healthy, .registered] + standing nodes [.degraded] + standing nodes [.unreachable] = nodes.length := by
  induction nodes with
  | nil => rfl
  | cons node rest ih =>
      have later := ih fun other member => serving other (List.mem_cons_of_mem _ member)
      have here := serving node List.mem_cons_self
      rw [standing_cons, standing_cons, standing_cons, List.length_cons, ← later]
      cases status : node.status with
      | draining => exact absurd status here
      | registered => simp; omega
      | healthy => simp; omega
      | degraded => simp; omega
      | unreachable => simp; omega

end Status

section Soundness

variable {F : Type} [F64 F] (thresholds : Thresholds F)

-- The status is one the daemon sets, and a degraded node has the sample that says so.
def Backed (id : NodeId) (record : NodeRecord F) : Prop :=
  record.info.nodeId = id ∧ record.status ≠ .draining ∧
    (record.status = .degraded → ∃ report, record.latestMetrics = some report ∧ classify report thresholds = .degraded)

theorem classify_served (report : MetricsReport F) : classify report thresholds ≠ .draining := by
  rw [classify]
  split_ifs <;> decide

theorem backed_rows (serde : SerdeF64 F) : RowInvariant (jsonCodec serde) thresholds (Backed thresholds) where
  keyed id record backed := backed.1
  registers info now old backed := ⟨rfl, by simp, by simp⟩
  ingests report now old backed := ⟨backed.1, classify_served thresholds report, fun degraded => ⟨report, rfl, degraded⟩⟩
  beats id record now backed := by
    by_cases unseen : record.status = .unreachable
    · simpa [Backed, unseen] using backed.1
    · simpa [Backed, unseen] using backed
  reaps id record backed := ⟨backed.1, by simp, by simp⟩
  decodes id record loaded backed decoded := by
    have erased := decode_erase serde record loaded decoded
    have info : loaded.info = record.info := congrArg (NodeRecord.info (F := Unit)) erased
    exact ⟨info ▸ backed.1, by simp, by simp⟩

end Soundness

end Hpc.Daemon
