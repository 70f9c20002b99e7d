import Hpc.Lib.Sequencing
import Hpc.Core.Types

set_option autoImplicit false

namespace Hpc.Core

open Hpc.Lib

-- The f64 fields of a record, at every depth: where they are, what is left without them, and a record rebuilt from one
-- attempt at each of them.
section Positions

variable {F G : Type}

def CpuMetrics.floats (cpu : CpuMetrics F) : List F := cpu.usagePercent :: cpu.perCorePercent
def LoadMetrics.floats (load : LoadMetrics F) : List F := [load.one, load.five, load.fifteen]
def DiskMetrics.floats (disk : DiskMetrics F) : List F := [disk.ioUtilizationPercent]

def MetricsReport.floats (report : MetricsReport F) : List F :=
  report.cpu.floats ++ report.load.floats ++ report.disks.flatMap DiskMetrics.floats

def NodeRecord.floats (record : NodeRecord F) : List F := record.latestMetrics.toList.flatMap MetricsReport.floats

def CpuMetrics.erase (cpu : CpuMetrics F) : CpuMetrics Unit := ⟨(), cpu.perCorePercent.map fun _ => ()⟩
def LoadMetrics.erase (_ : LoadMetrics F) : LoadMetrics Unit := ⟨(), (), ()⟩
def DiskMetrics.erase (disk : DiskMetrics F) : DiskMetrics Unit := { disk with ioUtilizationPercent := () }

def MetricsReport.erase (report : MetricsReport F) : MetricsReport Unit :=
  { report with cpu := report.cpu.erase, load := report.load.erase, disks := report.disks.map DiskMetrics.erase }

def NodeRecord.erase (record : NodeRecord F) : NodeRecord Unit :=
  { record with latestMetrics := record.latestMetrics.map MetricsReport.erase }

variable {ε : Type} (f : F → Except ε G)

def CpuMetrics.traverse (cpu : CpuMetrics F) : Except ε (CpuMetrics G) := do
  let usagePercent ← f cpu.usagePercent
  let perCorePercent ← cpu.perCorePercent.mapM f
  return ⟨usagePercent, perCorePercent⟩

def LoadMetrics.traverse (load : LoadMetrics F) : Except ε (LoadMetrics G) := do
  let one ← f load.one
  let five ← f load.five
  let fifteen ← f load.fifteen
  return ⟨one, five, fifteen⟩

def DiskMetrics.traverse (disk : DiskMetrics F) : Except ε (DiskMetrics G) := do
  let ioUtilizationPercent ← f disk.ioUtilizationPercent
  return { disk with ioUtilizationPercent := ioUtilizationPercent }

def MetricsReport.traverse (report : MetricsReport F) : Except ε (MetricsReport G) := do
  let cpu ← report.cpu.traverse f
  let load ← report.load.traverse f
  let disks ← report.disks.mapM (DiskMetrics.traverse f)
  return { report with cpu := cpu, load := load, disks := disks }

def NodeRecord.traverse (record : NodeRecord F) : Except ε (NodeRecord G) :=
  match record.latestMetrics with
  | none => .ok { record with latestMetrics := none }
  | some report => do
      let latestMetrics ← report.traverse f
      return { record with latestMetrics := some latestMetrics }

end Positions

section Erasure

variable {F G ε : Type} (f : F → Except ε G)

theorem cpu_traverse_ok (cpu : CpuMetrics F) (result : CpuMetrics G) :
    cpu.traverse f = .ok result ↔
      f cpu.usagePercent = .ok result.usagePercent ∧ cpu.perCorePercent.mapM f = .ok result.perCorePercent := by
  cases result
  simp [CpuMetrics.traverse, bind_eq_ok_iff, pure, Except.pure]

theorem load_traverse_ok (load : LoadMetrics F) (result : LoadMetrics G) :
    load.traverse f = .ok result ↔
      f load.one = .ok result.one ∧ f load.five = .ok result.five ∧ f load.fifteen = .ok result.fifteen := by
  cases result
  simp [LoadMetrics.traverse, bind_eq_ok_iff, pure, Except.pure]

theorem disk_traverse_ok (disk : DiskMetrics F) (result : DiskMetrics G) :
    disk.traverse f = .ok result ↔
      f disk.ioUtilizationPercent = .ok result.ioUtilizationPercent ∧
        result = { disk with ioUtilizationPercent := result.ioUtilizationPercent } := by
  cases result
  simp [DiskMetrics.traverse, bind_eq_ok_iff, pure, Except.pure]
  grind

theorem report_traverse_ok (report : MetricsReport F) (result : MetricsReport G) :
    report.traverse f = .ok result ↔
      report.cpu.traverse f = .ok result.cpu ∧ report.load.traverse f = .ok result.load ∧
        report.disks.mapM (DiskMetrics.traverse f) = .ok result.disks ∧
        result = { report with cpu := result.cpu, load := result.load, disks := result.disks } := by
  cases result
  simp [MetricsReport.traverse, bind_eq_ok_iff, pure, Except.pure]
  grind

theorem record_traverse_ok (record : NodeRecord F) (result : NodeRecord G) :
    record.traverse f = .ok result ↔
      result = { record with latestMetrics := result.latestMetrics } ∧
        match record.latestMetrics with
        | none => result.latestMetrics = none
        | some report => ∃ traversed, report.traverse f = .ok traversed ∧ result.latestMetrics = some traversed := by
  cases result
  rw [NodeRecord.traverse]
  cases record.latestMetrics with
  | none => simp; grind
  | some report => simp [bind_eq_ok_iff, pure, Except.pure]; grind

theorem cpu_traverse_erase (cpu : CpuMetrics F) (result : CpuMetrics G)
    (traversed : cpu.traverse f = .ok result) : result.erase = cpu.erase := by
  obtain ⟨_, cores⟩ := (cpu_traverse_ok f cpu result).mp traversed
  have same := mapM_observe f (fun _ => ()) (fun _ => ()) (fun _ _ _ => rfl) _ _ cores
  simp only [CpuMetrics.erase, same]

theorem disk_traverse_erase (disk : DiskMetrics F) (result : DiskMetrics G)
    (traversed : disk.traverse f = .ok result) : result.erase = disk.erase := by
  rw [((disk_traverse_ok f disk result).mp traversed).2]
  rfl

theorem report_traverse_erase (report : MetricsReport F) (result : MetricsReport G)
    (traversed : report.traverse f = .ok result) : result.erase = report.erase := by
  obtain ⟨cpu, _, disks, shape⟩ := (report_traverse_ok f report result).mp traversed
  have sameCpu := cpu_traverse_erase f report.cpu result.cpu cpu
  have sameDisks := mapM_observe _ DiskMetrics.erase DiskMetrics.erase (disk_traverse_erase f) _ _ disks
  rw [shape]
  simp only [MetricsReport.erase, LoadMetrics.erase, sameCpu, sameDisks]

theorem record_traverse_erase (record : NodeRecord F) (result : NodeRecord G)
    (traversed : record.traverse f = .ok result) : result.erase = record.erase := by
  obtain ⟨shape, metrics⟩ := (record_traverse_ok f record result).mp traversed
  have same : result.latestMetrics.map MetricsReport.erase = record.latestMetrics.map MetricsReport.erase := by
    cases latest : record.latestMetrics with
    | none =>
        rw [latest] at metrics
        rw [metrics]
        rfl
    | some report =>
        rw [latest] at metrics
        obtain ⟨rebuilt, ran, found⟩ := metrics
        rw [found, Option.map_some, Option.map_some, report_traverse_erase f report rebuilt ran]
  rw [shape]
  simp only [NodeRecord.erase, same]

end Erasure

section Identity

variable {F ε : Type}

theorem report_traverse_self (report : MetricsReport F) : report.traverse (Except.ok (ε := ε)) = .ok report := by
  have cores : report.cpu.perCorePercent.mapM (Except.ok (ε := ε)) = .ok report.cpu.perCorePercent := by
    simpa using mapM_of_eq (Except.ok (ε := ε)) id report.cpu.perCorePercent fun _ _ => rfl
  have disks : report.disks.mapM (DiskMetrics.traverse (Except.ok (ε := ε))) = .ok report.disks := by
    simpa using mapM_of_eq (DiskMetrics.traverse (Except.ok (ε := ε))) id report.disks fun _ _ => rfl
  have cpu : report.cpu.traverse (Except.ok (ε := ε)) = .ok report.cpu :=
    (cpu_traverse_ok _ _ _).mpr ⟨rfl, cores⟩
  exact (report_traverse_ok _ _ _).mpr ⟨cpu, rfl, disks, rfl⟩

theorem record_traverse_self (record : NodeRecord F) : record.traverse (Except.ok (ε := ε)) = .ok record := by
  refine (record_traverse_ok _ _ _).mpr ⟨rfl, ?_⟩
  cases record.latestMetrics with
  | none => rfl
  | some report => exact ⟨report, report_traverse_self report, rfl⟩

end Identity

section Image

variable {F G ε : Type} (f : F → Except ε G) (property : G → Prop)
  (holds : ∀ x y, f x = .ok y → property y)

include holds

theorem report_traverse_image (report : MetricsReport F) (result : MetricsReport G)
    (traversed : report.traverse f = .ok result) : ∀ y ∈ result.floats, property y := by
  obtain ⟨cpu, load, disks, _⟩ := (report_traverse_ok f report result).mp traversed
  obtain ⟨usage, cores⟩ := (cpu_traverse_ok f report.cpu result.cpu).mp cpu
  obtain ⟨one, five, fifteen⟩ := (load_traverse_ok f report.load result.load).mp load
  have coresHold : ∀ y ∈ result.cpu.perCorePercent, property y := by
    intro y member
    obtain ⟨x, _, found⟩ := mapM_result_mem f _ _ cores y member
    exact holds x y found
  have disksHold : ∀ disk ∈ result.disks, property disk.ioUtilizationPercent := by
    intro disk member
    obtain ⟨source, _, found⟩ := mapM_result_mem _ _ _ disks disk member
    exact holds _ _ ((disk_traverse_ok f source disk).mp found).1
  have usageHolds := holds _ _ usage
  have oneHolds := holds _ _ one
  have fiveHolds := holds _ _ five
  have fifteenHolds := holds _ _ fifteen
  simp only [MetricsReport.floats, CpuMetrics.floats, LoadMetrics.floats, DiskMetrics.floats, List.mem_append,
    List.mem_cons, List.mem_flatMap, List.not_mem_nil, or_false]
  rintro y (((rfl | member) | (rfl | rfl | rfl)) | ⟨disk, member, rfl⟩)
  · exact usageHolds
  · exact coresHold y member
  · exact oneHolds
  · exact fiveHolds
  · exact fifteenHolds
  · exact disksHold disk member

theorem record_traverse_image (record : NodeRecord F) (result : NodeRecord G)
    (traversed : record.traverse f = .ok result) : ∀ y ∈ result.floats, property y := by
  obtain ⟨_, metrics⟩ := (record_traverse_ok f record result).mp traversed
  cases latest : record.latestMetrics with
  | none =>
      rw [latest] at metrics
      simp [NodeRecord.floats, metrics]
  | some report =>
      rw [latest] at metrics
      obtain ⟨rebuilt, ran, found⟩ := metrics
      simpa [NodeRecord.floats, found] using report_traverse_image f property holds report rebuilt ran

end Image

section Success

variable {F G ε : Type} (f : F → Except ε G)

theorem cpu_traverse_succeeds (cpu : CpuMetrics F) :
    (∃ result, cpu.traverse f = .ok result) ↔ ∀ x ∈ cpu.floats, ∃ y, f x = .ok y := by
  rw [CpuMetrics.floats, List.forall_mem_cons, ← mapM_succeeds_iff]
  apply Iff.intro
  · rintro ⟨result, traversed⟩
    obtain ⟨usage, cores⟩ := (cpu_traverse_ok f cpu result).mp traversed
    exact ⟨⟨_, usage⟩, _, cores⟩
  · rintro ⟨⟨usage, first⟩, cores, second⟩
    exact ⟨⟨usage, cores⟩, (cpu_traverse_ok f cpu _).mpr ⟨first, second⟩⟩

theorem load_traverse_succeeds (load : LoadMetrics F) :
    (∃ result, load.traverse f = .ok result) ↔ ∀ x ∈ load.floats, ∃ y, f x = .ok y := by
  simp only [LoadMetrics.floats, List.forall_mem_cons, List.not_mem_nil, false_imp_iff, implies_true, and_true]
  apply Iff.intro
  · rintro ⟨result, traversed⟩
    obtain ⟨one, five, fifteen⟩ := (load_traverse_ok f load result).mp traversed
    exact ⟨⟨_, one⟩, ⟨_, five⟩, ⟨_, fifteen⟩⟩
  · rintro ⟨⟨one, first⟩, ⟨five, second⟩, ⟨fifteen, third⟩⟩
    exact ⟨⟨one, five, fifteen⟩, (load_traverse_ok f load _).mpr ⟨first, second, third⟩⟩

theorem disk_traverse_succeeds (disk : DiskMetrics F) :
    (∃ result, disk.traverse f = .ok result) ↔ ∀ x ∈ disk.floats, ∃ y, f x = .ok y := by
  simp only [DiskMetrics.floats, List.forall_mem_singleton]
  apply Iff.intro
  · rintro ⟨result, traversed⟩
    exact ⟨_, ((disk_traverse_ok f disk result).mp traversed).1⟩
  · rintro ⟨percent, passed⟩
    exact ⟨{ disk with ioUtilizationPercent := percent }, (disk_traverse_ok f disk _).mpr ⟨passed, rfl⟩⟩

theorem report_traverse_succeeds (report : MetricsReport F) :
    (∃ result, report.traverse f = .ok result) ↔ ∀ x ∈ report.floats, ∃ y, f x = .ok y := by
  have disks : (∃ results, report.disks.mapM (DiskMetrics.traverse f) = .ok results) ↔
      ∀ x ∈ report.disks.flatMap DiskMetrics.floats, ∃ y, f x = .ok y := by
    rw [mapM_succeeds_iff, List.forall_mem_flatMap]
    exact forall₂_congr fun disk _ => disk_traverse_succeeds f disk
  rw [MetricsReport.floats, List.forall_mem_append, List.forall_mem_append, ← cpu_traverse_succeeds,
    ← load_traverse_succeeds, ← disks]
  apply Iff.intro
  · rintro ⟨result, traversed⟩
    obtain ⟨cpu, load, disks, _⟩ := (report_traverse_ok f report result).mp traversed
    exact ⟨⟨⟨_, cpu⟩, _, load⟩, _, disks⟩
  · rintro ⟨⟨⟨cpu, first⟩, load, second⟩, disks, third⟩
    exact ⟨{ report with cpu := cpu, load := load, disks := disks },
      (report_traverse_ok f report _).mpr ⟨first, second, third, rfl⟩⟩

theorem record_traverse_succeeds (record : NodeRecord F) :
    (∃ result, record.traverse f = .ok result) ↔ ∀ x ∈ record.floats, ∃ y, f x = .ok y := by
  unfold NodeRecord.traverse NodeRecord.floats
  cases record.latestMetrics with
  | none => simp
  | some report => simp [bind_eq_ok_iff, pure, Except.pure, ← report_traverse_succeeds]

end Success

end Hpc.Core
