import Hpc.Daemon.Service

set_option autoImplicit false

namespace Hpc.Monitor

open Hpc.Core Hpc.Daemon

structure Detector (F : Type) where
  thresholds : Thresholds F

section Policy

variable {F : Type} [F64Text F]

def percent (x : F) : F := F64Text.mul x (F64.ofU64 100)

def Detector.cpuFraction (m : MetricsReport F) : F := F64.div m.cpu.usagePercent (F64.ofU64 100)

def Detector.loadPerCore (info : NodeInfo) (m : MetricsReport F) : F :=
  F64.div m.load.one (F64.ofU64 (max info.cpuCores 1).toUInt64)

-- Every reason there is, in the order of the checks. An unreachable node has no other.
def Detector.evaluate (detector : Detector F) (node : NodeRecord F) : List String :=
  let thresholds := detector.thresholds
  if node.status = .unreachable then ["unreachable (no heartbeat)"]
  else
    match node.latestMetrics with
    | none => []
    | some m =>
        let cpu := if F64.ge (cpuFraction m) thresholds.cpuDegraded then
          ["cpu " ++ F64Text.fixed 0 m.cpu.usagePercent ++ "% >= " ++ F64Text.fixed 0 (percent thresholds.cpuDegraded) ++ "%"]
          else []
        let memFrac : F := m.memory.usedFraction
        let memory := if F64.ge memFrac thresholds.memoryDegraded then
          ["memory " ++ F64Text.fixed 0 (percent memFrac) ++ "% >= " ++
            F64Text.fixed 0 (percent thresholds.memoryDegraded) ++ "%"]
          else []
        let disks := m.disks.flatMap fun d =>
          if F64.ge d.usedFraction thresholds.diskDegraded then
            ["disk " ++ d.mountPoint ++ " " ++ F64Text.fixed 0 (percent d.usedFraction) ++ "% >= " ++
              F64Text.fixed 0 (percent thresholds.diskDegraded) ++ "%"]
          else []
        let perCore := loadPerCore node.info m
        let load := if F64.ge perCore thresholds.loadPerCoreDegraded then
          ["load/core " ++ F64Text.fixed 2 perCore ++ " >= " ++ F64Text.fixed 2 thresholds.loadPerCoreDegraded]
          else []
        cpu ++ memory ++ disks ++ load

def CpuBreach (thresholds : Thresholds F) (report : MetricsReport F) : Prop :=
  F64.ge (F64.div report.cpu.usagePercent (F64.ofU64 100)) thresholds.cpuDegraded = true

def MemoryBreach (thresholds : Thresholds F) (report : MetricsReport F) : Prop :=
  F64.ge report.memory.usedFraction thresholds.memoryDegraded = true

def DiskBreach (thresholds : Thresholds F) (report : MetricsReport F) : Prop :=
  ∃ disk ∈ report.disks, F64.ge disk.usedFraction thresholds.diskDegraded = true

def LoadBreach (thresholds : Thresholds F) (info : NodeInfo) (report : MetricsReport F) : Prop :=
  F64.ge (F64.div report.load.one (F64.ofU64 (max info.cpuCores 1).toUInt64)) thresholds.loadPerCoreDegraded = true

theorem reason_nil_iff (breach : Prop) [Decidable breach] (text : String) :
    (if breach then [text] else []) = [] ↔ ¬ breach := by
  by_cases holds : breach <;> simp [holds]

theorem evaluate_nil_iff (detector : Detector F) (node : NodeRecord F) (report : MetricsReport F)
    (reachable : node.status ≠ .unreachable) (latest : node.latestMetrics = some report) :
    detector.evaluate node = [] ↔
      ¬ CpuBreach detector.thresholds report ∧ ¬ MemoryBreach detector.thresholds report ∧
        ¬ DiskBreach detector.thresholds report ∧ ¬ LoadBreach detector.thresholds node.info report := by
  simp only [Detector.evaluate, reachable, if_false, latest, List.append_eq_nil_iff, List.flatMap_eq_nil_iff,
    reason_nil_iff, and_assoc]
  simp only [CpuBreach, MemoryBreach, DiskBreach, LoadBreach, Detector.cpuFraction, Detector.loadPerCore, not_exists,
    not_and]

theorem classify_degraded_iff (thresholds : Thresholds F) (report : MetricsReport F) :
    classify report thresholds = .degraded ↔
      CpuBreach thresholds report ∨ MemoryBreach thresholds report ∨ DiskBreach thresholds report := by
  by_cases cpu : CpuBreach thresholds report
  · simp_all [classify, CpuBreach]
  · by_cases memory : MemoryBreach thresholds report
    · simp_all [classify, CpuBreach, MemoryBreach]
    · simp_all [classify, CpuBreach, MemoryBreach, DiskBreach]

-- The two components agree on a sample exactly where load per core, which only the monitor looks at, does not decide.
theorem degraded_iff_reasons (thresholds : Thresholds F) (stored : NodeRecord F) (report : MetricsReport F)
    (status : stored.status = classify report thresholds) (latest : stored.latestMetrics = some report) :
    (stored.status = .degraded ↔ Detector.evaluate ⟨thresholds⟩ stored ≠ []) ↔
      CpuBreach thresholds report ∨ MemoryBreach thresholds report ∨ DiskBreach thresholds report ∨
        ¬ LoadBreach thresholds stored.info report := by
  have reachable : stored.status ≠ .unreachable := by
    rw [status]
    rw [classify]
    split_ifs <;> decide
  rw [ne_eq, evaluate_nil_iff ⟨thresholds⟩ stored report reachable latest, status, classify_degraded_iff]
  tauto

end Policy

section Ingestion

variable {F Bytes : Type} [F64Text F] (codec : Codec (NodeRecord F) Bytes) (thresholds : Thresholds F)

def SameVerdict (stored : NodeRecord F) : Prop := stored.status = .degraded ↔ Detector.evaluate ⟨thresholds⟩ stored ≠ []

theorem ingest_agrees_iff (txn : Txn) (report : MetricsReport F) (now : UInt64) (state : SharedState F Bytes)
    (node : NodeRecord F) (known : state.nodes[report.nodeId]? = some node) :
    ∃ stored, (ingestMetrics codec thresholds txn report now state).2.nodes[report.nodeId]? = some stored ∧
      (SameVerdict thresholds stored ↔
        CpuBreach thresholds report ∨ MemoryBreach thresholds report ∨ DiskBreach thresholds report ∨
          ¬ LoadBreach thresholds node.info report) := by
  have stored : (ingestMetrics codec thresholds txn report now state).2.nodes[report.nodeId]? =
      some ⟨node.info, classify report thresholds, now, some report⟩ := by
    rw [ingest_metrics_nodes]
    simp [ingestTable, known, Except.toOption]
  exact ⟨_, stored, degraded_iff_reasons thresholds _ report rfl rfl⟩

end Ingestion

section Samples

def registered : SharedState ℚ (Json ℚ) :=
  (registerNode (jsonCodec rationalSerde) .commits (sampleInfo "n1") 1000 ⟨∅, ∅, Store.fresh⟩).2

def loadedReport : MetricsReport ℚ :=
  ⟨"n1", 1000, ⟨5, []⟩, ⟨100, 10, 90, 0, 0⟩, ⟨32, 30, 28⟩, [], ⟨0, 0, 0, 0⟩, []⟩

theorem loaded_report_agrees_iff :
    ∃ stored, (ingestMetrics (jsonCodec rationalSerde) rationalConfig.thresholds .commits loadedReport 1001
        registered).2.nodes["n1"]? = some stored ∧
      (SameVerdict rationalConfig.thresholds stored ↔
        CpuBreach rationalConfig.thresholds loadedReport ∨ MemoryBreach rationalConfig.thresholds loadedReport ∨
          DiskBreach rationalConfig.thresholds loadedReport ∨
          ¬ LoadBreach rationalConfig.thresholds (sampleInfo "n1") loadedReport) :=
  ingest_agrees_iff (jsonCodec rationalSerde) rationalConfig.thresholds .commits loadedReport 1001 registered
    ⟨sampleInfo "n1", .registered, 1000, none⟩ (by decide +kernel)

theorem load_unseen_by_daemon :
    ∃ stored, (ingestMetrics (jsonCodec rationalSerde) rationalConfig.thresholds .commits loadedReport 1001
        registered).2.nodes["n1"]? = some stored ∧
      stored.status = .healthy ∧ Detector.evaluate ⟨rationalConfig.thresholds⟩ stored = ["load/core 4.00 >= 2.00"] ∧
      ¬ SameVerdict rationalConfig.thresholds stored := by
  have reasons : Detector.evaluate ⟨rationalConfig.thresholds⟩
      ⟨sampleInfo "n1", .healthy, 1001, some loadedReport⟩ = ["load/core 4.00 >= 2.00"] := by decide +kernel
  refine ⟨⟨sampleInfo "n1", .healthy, 1001, some loadedReport⟩, by decide +kernel, rfl, reasons, ?_⟩
  intro same
  have degraded := same.mpr (by rw [reasons]; decide)
  cases degraded

end Samples

end Hpc.Monitor
