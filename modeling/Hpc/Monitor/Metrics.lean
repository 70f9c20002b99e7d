import Hpc.Daemon.Census
import Hpc.Monitor.Health

set_option autoImplicit false

namespace Hpc.Monitor

open Hpc.Core Hpc.Daemon Hpc.Lib

abbrev GaugeVec (V : Type) := Std.ExtTreeMap (List String) V

structure Metrics (F : Type) where
  nodesTotal : Int
  nodesHealthy : Int
  nodesDegraded : Int
  nodesUnreachable : Int
  nodeUp : GaugeVec Int
  nodeDegraded : GaugeVec Int
  cpuPercent : GaugeVec F
  memoryRatio : GaugeVec F
  load1 : GaugeVec F
  diskRatio : GaugeVec F
  scrapeErrors : Nat

def Metrics.new {F : Type} : Metrics F := ⟨0, 0, 0, 0, ∅, ∅, ∅, ∅, ∅, ∅, 0⟩

structure Sweep (F : Type) where
  metrics : Metrics F
  healthy : Int
  degraded : Int
  unreachable : Int
  degradedNodes : List (String × List String)

section Update

variable {F : Type} [F64Text F]

def Metrics.reset (metrics : Metrics F) : Metrics F :=
  { metrics with nodeUp := ∅, nodeDegraded := ∅, cpuPercent := ∅, memoryRatio := ∅, load1 := ∅, diskRatio := ∅ }

def Metrics.sample (metrics : Metrics F) (id : String) (m : MetricsReport F) : Metrics F :=
  { metrics with
    cpuPercent := metrics.cpuPercent.insert [id] m.cpu.usagePercent
    memoryRatio := metrics.memoryRatio.insert [id] m.memory.usedFraction
    load1 := metrics.load1.insert [id] m.load.one
    diskRatio := m.disks.foldl (fun ratio d => ratio.insert [id, d.mountPoint] d.usedFraction) metrics.diskRatio }

-- Every status that is neither unreachable nor degraded counts as healthy here.
def Sweep.node (detector : Detector F) (sweep : Sweep F) (node : NodeRecord F) : Sweep F :=
  let id := node.info.nodeId
  let up : Int := if node.status ≠ .unreachable then 1 else 0
  let (healthy, degraded, unreachable) := match node.status with
    | .unreachable => (sweep.healthy, sweep.degraded, sweep.unreachable + 1)
    | .degraded => (sweep.healthy, sweep.degraded + 1, sweep.unreachable)
    | _ => (sweep.healthy + 1, sweep.degraded, sweep.unreachable)
  let sampled := node.latestMetrics.elim sweep.metrics (sweep.metrics.sample id)
  let reasons := detector.evaluate node
  let isDegraded : Int := if reasons ≠ [] then 1 else 0
  ⟨{ sampled with nodeUp := sampled.nodeUp.insert [id] up, nodeDegraded := sampled.nodeDegraded.insert [id] isDegraded },
    healthy, degraded, unreachable,
    if reasons ≠ [] then sweep.degradedNodes ++ [(id, reasons)] else sweep.degradedNodes⟩

def Metrics.update (metrics : Metrics F) (nodes : List (NodeRecord F)) (detector : Detector F) :
    Metrics F × List (String × List String) :=
  let sweep := nodes.foldl (Sweep.node detector) ⟨metrics.reset, 0, 0, 0, []⟩
  ({ sweep.metrics with
      nodesTotal := nodes.length
      nodesHealthy := sweep.healthy
      nodesDegraded := sweep.degraded
      nodesUnreachable := sweep.unreachable }, sweep.degradedNodes)

theorem sweep_counts (detector : Detector F) (nodes : List (NodeRecord F)) (start : Sweep F)
    (serving : ∀ node ∈ nodes, node.status ≠ .draining) :
    (nodes.foldl (Sweep.node detector) start).healthy = start.healthy + standing nodes [.healthy, .registered] ∧
      (nodes.foldl (Sweep.node detector) start).degraded = start.degraded + standing nodes [.degraded] ∧
      (nodes.foldl (Sweep.node detector) start).unreachable = start.unreachable + standing nodes [.unreachable] := by
  induction nodes generalizing start with
  | nil => simp [standing]
  | cons node rest ih =>
      obtain ⟨healthy, degraded, unreachable⟩ :=
        ih (start.node detector node) fun other member => serving other (List.mem_cons_of_mem _ member)
      have here := serving node List.mem_cons_self
      rw [List.foldl_cons, healthy, degraded, unreachable, standing_cons, standing_cons, standing_cons]
      cases status : node.status with
      | draining => exact absurd status here
      | registered => simp [Sweep.node, status]; omega
      | healthy => simp [Sweep.node, status]; omega
      | degraded => simp [Sweep.node, status]; omega
      | unreachable => simp [Sweep.node, status]; omega

end Update

section Census

variable {F Bytes : Type} [F64Text F] (thresholds : Thresholds F)

def OneCensus (nodes : List (NodeRecord F)) : Prop :=
  ∀ (daemon : Instance) (connectedCount : Nat) (now : UInt64) (metrics : Metrics F) (detector : Detector F),
    let status := clusterStatus daemon nodes connectedCount now
    let gauges := (metrics.update nodes detector).1
    status.healthy + status.degraded + status.unreachable = status.totalNodes ∧
      gauges.nodesHealthy = status.healthy ∧ gauges.nodesDegraded = status.degraded ∧
      gauges.nodesUnreachable = status.unreachable ∧ gauges.nodesTotal = status.totalNodes

theorem one_census (nodes : List (NodeRecord F)) (serving : ∀ node ∈ nodes, node.status ≠ .draining) : OneCensus nodes := by
  intro daemon connectedCount now metrics detector
  obtain ⟨healthy, degraded, unreachable⟩ := sweep_counts detector nodes ⟨metrics.reset, 0, 0, 0, []⟩ serving
  have total := standing_total nodes serving
  simp only [clusterStatus, tallyNodes, tally_fold, Metrics.update, healthy, degraded, unreachable, Nat.zero_add,
    Int.zero_add]
  exact ⟨total, trivial, trivial, trivial, trivial⟩

structure SoundCensus (state : SharedState F Bytes) : Prop where
  degraded : ∀ (id : NodeId) (record : NodeRecord F), state.nodes[id]? = some record → record.status = .degraded →
    ∃ report, record.latestMetrics = some report ∧ classify report thresholds = .degraded
  serving : ∀ (id : NodeId) (record : NodeRecord F), state.nodes[id]? = some record → record.status ≠ .draining
  census : ∀ taken, Enumerates state taken → (sortNodes taken).Perm (values state.nodes) ∧ OneCensus (sortNodes taken)

theorem status_sound (serde : SerdeF64 F) (config : DaemonConfig F) (start : SharedState F (Json F))
    (phases : List (Phase F)) (finish : Overlapped F (Json F))
    (booted : bootstrap (jsonCodec serde) Store.fresh = .ok start)
    (ran : runFrom (overlapStep (jsonCodec serde) config) ⟨start, []⟩ phases = some finish) :
    SoundCensus config.thresholds finish.daemon := by
  have rows := (overlap_run_rows (jsonCodec serde) (Backed config.thresholds) config (backed_rows config.thresholds serde)
    start phases finish booted ran).memory
  refine ⟨fun id record found => (rows id record found).2.2, fun id record found => (rows id record found).2.1, ?_⟩
  intro taken all
  have listed : (sortNodes taken).Perm (values finish.daemon.nodes) := (List.mergeSort_perm _ _).trans all
  refine ⟨listed, one_census (sortNodes taken) ?_⟩
  intro node member
  obtain ⟨id, found⟩ := (mem_values finish.daemon.nodes node).mp (listed.mem_iff.mp member)
  exact (rows id node found).2.1

end Census

section Samples

def fullMemory (id : NodeId) : MetricsReport ℚ :=
  ⟨id, 1000, ⟨5, []⟩, ⟨100, 100, 0, 0, 0⟩, ⟨1, 1, 1⟩, [], ⟨0, 0, 0, 0⟩, []⟩

def threeNodes : List (Phase ℚ) :=
  [.update (.register (sampleInfo "n1") 1000), .transact 0 .commits, .restart, .update (.register (sampleInfo "n2") 1001),
    .update (.ingest (fullMemory "n2") 1002), .update (.register (sampleInfo "n3") 1003)]

theorem three_nodes_run :
    (runFrom (overlapStep (jsonCodec rationalSerde) rationalConfig) ⟨⟨∅, ∅, Store.fresh⟩, []⟩ threeNodes).isSome := by
  decide +kernel

theorem three_nodes_sound : SoundCensus rationalConfig.thresholds (Option.get _ three_nodes_run).daemon :=
  status_sound rationalSerde rationalConfig ⟨∅, ∅, Store.fresh⟩ threeNodes _ rfl (Option.some_get three_nodes_run).symm

end Samples

end Hpc.Monitor
