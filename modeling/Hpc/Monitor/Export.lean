import Hpc.Monitor.Metrics

set_option autoImplicit false

namespace Hpc.Monitor

open Hpc.Core Hpc.Daemon Hpc.Lib

-- Everything that is exported but the counter of failed scrapes.
def Metrics.gauges {F : Type} (metrics : Metrics F) : Metrics F := { metrics with scrapeErrors := 0 }

section Labels

variable {F : Type}

def nodeLabels (node : NodeRecord F) : List (List String) := [[node.info.nodeId]]

def sampleLabels (node : NodeRecord F) : List (List String) :=
  node.latestMetrics.elim [] fun _ => [[node.info.nodeId]]

def diskLabels (node : NodeRecord F) : List (List String) :=
  node.latestMetrics.elim [] fun m => m.disks.map fun d => [node.info.nodeId, d.mountPoint]

def Carries {V : Type} (vec : GaugeVec V) (labels : NodeRecord F → List (List String)) (nodes : List (NodeRecord F)) : Prop :=
  ∀ label, label ∈ vec ↔ ∃ node ∈ nodes, label ∈ labels node

structure Exports (nodes : List (NodeRecord F)) (samples : NodeRecord F → List (List String)) (metrics : Metrics F) :
    Prop where
  nodeUp : Carries metrics.nodeUp nodeLabels nodes
  nodeDegraded : Carries metrics.nodeDegraded nodeLabels nodes
  cpuPercent : Carries metrics.cpuPercent samples nodes
  memoryRatio : Carries metrics.memoryRatio samples nodes
  load1 : Carries metrics.load1 samples nodes
  diskRatio : Carries metrics.diskRatio diskLabels nodes

structure Forgets (id : NodeId) (metrics : Metrics F) : Prop where
  nodeUp : ∀ more, id :: more ∉ metrics.nodeUp
  nodeDegraded : ∀ more, id :: more ∉ metrics.nodeDegraded
  cpuPercent : ∀ more, id :: more ∉ metrics.cpuPercent
  memoryRatio : ∀ more, id :: more ∉ metrics.memoryRatio
  load1 : ∀ more, id :: more ∉ metrics.load1
  diskRatio : ∀ more, id :: more ∉ metrics.diskRatio

theorem sample_label_node (node : NodeRecord F) (id : NodeId) (more : List String)
    (member : id :: more ∈ sampleLabels node) : id = node.info.nodeId := by
  cases latest : node.latestMetrics with
  | none => simp [sampleLabels, latest] at member
  | some report =>
      rw [sampleLabels, latest] at member
      exact (List.cons.inj (List.mem_singleton.mp member)).1

theorem disk_label_node (node : NodeRecord F) (id : NodeId) (more : List String)
    (member : id :: more ∈ diskLabels node) : id = node.info.nodeId := by
  cases latest : node.latestMetrics with
  | none => simp [diskLabels, latest] at member
  | some report =>
      rw [diskLabels, latest] at member
      obtain ⟨disk, _, same⟩ := List.mem_map.mp member
      exact (List.cons.inj same).1.symm

theorem carries_forgets {V : Type} (vec : GaugeVec V) (labels : NodeRecord F → List (List String))
    (nodes : List (NodeRecord F)) (carried : Carries vec labels nodes)
    (named : ∀ node id more, id :: more ∈ labels node → id = node.info.nodeId)
    (id : NodeId) (departed : ∀ node ∈ nodes, node.info.nodeId ≠ id) (more : List String) : id :: more ∉ vec := by
  intro present
  obtain ⟨node, member, label⟩ := (carried _).mp present
  exact departed node member (named node id more label).symm

theorem exports_forgets (nodes : List (NodeRecord F)) (metrics : Metrics F) (exported : Exports nodes sampleLabels metrics)
    (id : NodeId) (departed : ∀ node ∈ nodes, node.info.nodeId ≠ id) : Forgets id metrics := by
  have named : ∀ (node : NodeRecord F) (id : NodeId) (more : List String),
      id :: more ∈ nodeLabels node → id = node.info.nodeId :=
    fun node id more member => (List.cons.inj (List.mem_singleton.mp member)).1
  exact
    { nodeUp := carries_forgets _ _ nodes exported.nodeUp named id departed
      nodeDegraded := carries_forgets _ _ nodes exported.nodeDegraded named id departed
      cpuPercent := carries_forgets _ _ nodes exported.cpuPercent sample_label_node id departed
      memoryRatio := carries_forgets _ _ nodes exported.memoryRatio sample_label_node id departed
      load1 := carries_forgets _ _ nodes exported.load1 sample_label_node id departed
      diskRatio := carries_forgets _ _ nodes exported.diskRatio disk_label_node id departed }

end Labels

section Sweeps

variable {F : Type} [F64Text F] (detector : Detector F)

-- The sweep without what it never looks at: the numbers that the end of the update overwrites, and the error counter.
def Sweep.vectors (sweep : Sweep F) : Sweep F :=
  { sweep with metrics :=
      { sweep.metrics with nodesTotal := 0, nodesHealthy := 0, nodesDegraded := 0, nodesUnreachable := 0, scrapeErrors := 0 } }

theorem sweep_node_vectors (sweep : Sweep F) (node : NodeRecord F) :
    Sweep.node detector sweep.vectors node = (Sweep.node detector sweep node).vectors := by
  cases latest : node.latestMetrics <;> simp [Sweep.node, Sweep.vectors, latest, Metrics.sample]

theorem update_gauges (before : Metrics F) (nodes : List (NodeRecord F)) :
    (before.update nodes detector).1.gauges = (Metrics.new.update nodes detector).1.gauges := by
  have carried (start : Sweep F) : nodes.foldl (Sweep.node detector) start.vectors =
      (nodes.foldl (Sweep.node detector) start).vectors :=
    List.foldl_hom Sweep.vectors (sweep_node_vectors detector)
  have old := carried ⟨before.reset, 0, 0, 0, []⟩
  have fresh := carried ⟨Metrics.new.reset, 0, 0, 0, []⟩
  have same : Sweep.vectors (⟨before.reset, 0, 0, 0, []⟩ : Sweep F) = Sweep.vectors ⟨Metrics.new.reset, 0, 0, 0, []⟩ := rfl
  rw [same, fresh] at old
  simp only [Sweep.vectors, Sweep.mk.injEq, Metrics.mk.injEq] at old
  simp only [Metrics.update, Metrics.gauges, Metrics.mk.injEq]
  simp [old]

theorem sweep_carries {V : Type} (vec : Sweep F → GaugeVec V) (labels : NodeRecord F → List (List String))
    (each : ∀ sweep node label, label ∈ vec (Sweep.node detector sweep node) ↔ label ∈ vec sweep ∨ label ∈ labels node)
    (start : Sweep F) (nodes : List (NodeRecord F)) (empty : vec start = ∅) :
    Carries (vec (nodes.foldl (Sweep.node detector) start)) labels nodes := by
  intro label
  rw [fold_adds (Sweep.node detector) (fun sweep => label ∈ vec sweep) (fun node => label ∈ labels node)
    (fun sweep node => each sweep node label), empty]
  simp

theorem insert_carries {V : Type} (vec : GaugeVec V) (key : List String) (value : V) (label : List String) :
    label ∈ vec.insert key value ↔ label ∈ vec ∨ label ∈ [key] := by
  rw [Std.ExtTreeMap.mem_insert, Std.LawfulEqCmp.compare_eq_iff_eq, List.mem_singleton, or_comm, eq_comm]

theorem node_inserts_up (sweep : Sweep F) (node : NodeRecord F) :
    ∃ up, (Sweep.node detector sweep node).metrics.nodeUp = sweep.metrics.nodeUp.insert [node.info.nodeId] up := by
  refine ⟨if node.status ≠ .unreachable then 1 else 0, ?_⟩
  cases latest : node.latestMetrics <;> simp [Sweep.node, latest, Metrics.sample]

theorem node_inserts_degraded (sweep : Sweep F) (node : NodeRecord F) :
    ∃ isDegraded, (Sweep.node detector sweep node).metrics.nodeDegraded =
      sweep.metrics.nodeDegraded.insert [node.info.nodeId] isDegraded := by
  refine ⟨if detector.evaluate node ≠ [] then 1 else 0, ?_⟩
  cases latest : node.latestMetrics <;> simp [Sweep.node, latest, Metrics.sample]

theorem sample_disk_carries (metrics : Metrics F) (id : String) (m : MetricsReport F) (label : List String) :
    label ∈ (metrics.sample id m).diskRatio ↔
      label ∈ metrics.diskRatio ∨ label ∈ m.disks.map fun d => [id, d.mountPoint] := by
  rw [Metrics.sample]
  rw [fold_adds (fun (ratio : GaugeVec F) (d : DiskMetrics F) => ratio.insert [id, d.mountPoint] d.usedFraction)
    (fun ratio => label ∈ ratio) (fun d => label ∈ [[id, d.mountPoint]])
    (fun ratio d => insert_carries ratio _ _ label)]
  simp [eq_comm]

theorem update_exports (before : Metrics F) (nodes : List (NodeRecord F)) :
    Exports nodes sampleLabels (before.update nodes detector).1 := by
  have swept := fun {V : Type} (vec : Sweep F → GaugeVec V) labels each empty =>
    sweep_carries detector vec labels each ⟨before.reset, 0, 0, 0, []⟩ nodes empty
  have sampled : ∀ (vec : Metrics F → GaugeVec F) (node : NodeRecord F) (sweep : Sweep F) (label : List String),
      (∀ id m, label ∈ vec (sweep.metrics.sample id m) ↔ label ∈ vec sweep.metrics ∨ label ∈ [[id]]) →
      (label ∈ vec (node.latestMetrics.elim sweep.metrics (sweep.metrics.sample node.info.nodeId)) ↔
        label ∈ vec sweep.metrics ∨ label ∈ sampleLabels node) := by
    intro vec node sweep label grows
    cases latest : node.latestMetrics with
    | none => simp [sampleLabels, latest]
    | some m => simpa [sampleLabels, latest] using grows node.info.nodeId m
  refine ⟨?_, ?_, ?_, ?_, ?_, ?_⟩
  · refine swept (fun sweep => sweep.metrics.nodeUp) nodeLabels ?_ rfl
    intro sweep node label
    obtain ⟨value, inserted⟩ := node_inserts_up detector sweep node
    rw [inserted]
    exact insert_carries _ _ _ _
  · refine swept (fun sweep => sweep.metrics.nodeDegraded) nodeLabels ?_ rfl
    intro sweep node label
    obtain ⟨value, inserted⟩ := node_inserts_degraded detector sweep node
    rw [inserted]
    exact insert_carries _ _ _ _
  · refine swept (fun sweep => sweep.metrics.cpuPercent) sampleLabels ?_ rfl
    exact fun sweep node label => sampled (·.cpuPercent) node sweep label fun id m => insert_carries _ _ _ _
  · refine swept (fun sweep => sweep.metrics.memoryRatio) sampleLabels ?_ rfl
    exact fun sweep node label => sampled (·.memoryRatio) node sweep label fun id m => insert_carries _ _ _ _
  · refine swept (fun sweep => sweep.metrics.load1) sampleLabels ?_ rfl
    exact fun sweep node label => sampled (·.load1) node sweep label fun id m => insert_carries _ _ _ _
  · refine swept (fun sweep => sweep.metrics.diskRatio) diskLabels ?_ rfl
    intro sweep node label
    cases latest : node.latestMetrics with
    | none => simp [Sweep.node, latest, diskLabels]
    | some m => simpa [Sweep.node, latest, diskLabels] using sample_disk_carries sweep.metrics node.info.nodeId m label

def updates (before : Metrics F) (history : List (List (NodeRecord F))) : Metrics F :=
  history.foldl (fun metrics nodes => (metrics.update nodes detector).1) before

theorem exported_last_only (before : Metrics F) (history : List (List (NodeRecord F))) (last : List (NodeRecord F)) :
    (updates detector before (history ++ [last])).gauges = (Metrics.new.update last detector).1.gauges ∧
      Exports last sampleLabels (updates detector before (history ++ [last])) ∧
      ∀ id, (∀ node ∈ last, node.info.nodeId ≠ id) → Forgets id (updates detector before (history ++ [last])) := by
  have final : updates detector before (history ++ [last]) = ((updates detector before history).update last detector).1 := by
    rw [updates, List.foldl_append]
    rfl
  rw [final]
  have exported := update_exports detector (updates detector before history) last
  exact ⟨update_gauges detector (updates detector before history) last, exported, exports_forgets last _ exported⟩

end Sweeps

section Samples

def joining : List (NodeRecord ℚ) := [⟨sampleInfo "n1", .registered, 1000, none⟩]

theorem joining_node_unsampled :
    (joining.map (·.info.nodeId)).Nodup ∧
      ¬ Exports joining nodeLabels (updates ⟨rationalConfig.thresholds⟩ Metrics.new [joining]) := by
  apply And.intro (by decide)
  intro exported
  have carried := (exported.cpuPercent ["n1"]).mpr ⟨_, List.mem_singleton_self _, List.mem_singleton_self _⟩
  have sampled := (update_exports ⟨rationalConfig.thresholds⟩ Metrics.new joining).cpuPercent ["n1"]
  exact absurd (sampled.mp carried) (by decide)

end Samples

end Hpc.Monitor
