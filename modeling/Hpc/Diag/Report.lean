import Hpc.Diag.Proc

set_option autoImplicit false

namespace Hpc.Diag

open Hpc.Core

inductive Severity where
  | info
  | warning
  | error
  | fatal
deriving DecidableEq, Repr

structure PlatformInfo where
  kernel : KernelInfo
  filesystems : List String
  mounts : List MountEntry
deriving DecidableEq, Repr

structure Anomaly where
  severity : Severity
  category : String
  detail : String
deriving DecidableEq, Repr

def ephemeralFs : List String := ["tmpfs", "ramfs", "overlay", "devtmpfs"]

def startsWith (start text : String) : Bool := start.toList.isPrefixOf text.toList

section Detection

variable (F : Type) [F64Text F]

def scarce (avail : F) : Bool :=
  let limit : F := F64.div (F64.ofU64 1) (F64.ofU64 10)
  F64.ge limit avail && !F64.ge avail limit

def pressureAnomaly (avail : F) : Anomaly :=
  ⟨.error, "memory_pressure", "only " ++ F64Text.fixed 1 (F64Text.mul avail (F64.ofU64 100)) ++
    "% of memory available; latency spikes, allocator failures and OOM kills are plausible here"⟩

def noSwapAnomaly : Anomaly :=
  ⟨.info, "no_swap", "no swap configured; memory pressure surfaces as hard OOM rather than slowdown"⟩

def memoryAnomalies (mem : MemInfo) : List Anomaly :=
  let avail : F := mem.availableFraction
  (if mem.memTotalKb > 0 ∧ scarce F avail then [pressureAnomaly F avail] else []) ++
    if mem.swapTotalKb = 0 then [noSwapAnomaly] else []

def kernelAnomalies (kernel : KernelInfo) : List Anomaly :=
  match kernel.versionPair with
  | none => []
  | some (major, minor) =>
      if major < 5 ∨ (major = 5 ∧ minor < 1) then
        [⟨.warning, "old_kernel", "kernel " ++ kernel.release ++
          " predates io_uring (5.1); async I/O and syscall behaviour may differ from newer nodes"⟩]
      else []

def filesystemAnomalies (filesystems : List String) : List Anomaly :=
  if filesystems.length > 1 then
    [⟨.info, "heterogeneous_filesystems", "multiple filesystem types in use (" ++ String.intercalate ", " filesystems ++
      "); durability and atomicity semantics can differ per mount"⟩]
  else []

def ephemeralAnomaly (m : MountEntry) : Anomaly :=
  ⟨.warning, "ephemeral_state_dir", m.mountPoint ++ " is " ++ m.fsType ++ " (ephemeral); state written there is lost on reboot"⟩

def rootReadOnlyAnomaly : Anomaly :=
  ⟨.error, "root_read_only", "root filesystem is mounted read-only; writes will fail"⟩

def mountAnomalies (m : MountEntry) : List Anomaly :=
  (if ephemeralFs.contains m.fsType ∧ startsWith "/var" m.mountPoint then [ephemeralAnomaly m] else []) ++
    if m.mountPoint = "/" ∧ "ro" ∈ m.options then [rootReadOnlyAnomaly] else []

def detectAnomalies (memory : Option MemInfo) (platform : PlatformInfo) : List Anomaly :=
  memory.elim [] (memoryAnomalies F) ++ kernelAnomalies platform.kernel ++ filesystemAnomalies platform.filesystems ++
    platform.mounts.flatMap mountAnomalies

end Detection

section Categories

def reported (category : String) (anomalies : List Anomaly) : List Anomaly :=
  anomalies.filter fun anomaly => anomaly.category = category

theorem reported_append (category : String) (front back : List Anomaly) :
    reported category (front ++ back) = reported category front ++ reported category back := List.filter_append _ _

theorem reported_flat_map (category : String) (mounts : List MountEntry) :
    reported category (mounts.flatMap mountAnomalies) = mounts.flatMap fun m => reported category (mountAnomalies m) := by
  rw [reported, List.filter_flatMap]
  rfl

theorem reported_if (category : String) (test : Prop) [Decidable test] (anomaly : Anomaly) :
    reported category (if test then [anomaly] else []) = if test ∧ anomaly.category = category then [anomaly] else [] := by
  by_cases holds : test
  · by_cases same : anomaly.category = category
    · simp [reported, holds, same]
    · simp [reported, holds, same]
  · simp [reported, holds]

theorem reported_if_other (category : String) (test : Prop) [Decidable test] (anomaly : Anomaly)
    (other : anomaly.category ≠ category) : reported category (if test then [anomaly] else []) = [] := by
  rw [reported_if, if_neg fun both => other both.2]

theorem reported_if_same (category : String) (test : Prop) [Decidable test] (anomaly : Anomaly)
    (same : anomaly.category = category) :
    reported category (if test then [anomaly] else []) = if test then [anomaly] else [] := by
  simp only [reported_if, same, and_true]

theorem reported_kernel (category : String) (kernel : KernelInfo) (other : category ≠ "old_kernel") :
    reported category (kernelAnomalies kernel) = [] := by
  rw [kernelAnomalies]
  cases kernel.versionPair with
  | none => rfl
  | some pair => exact reported_if_other category _ _ (Ne.symm other)

theorem reported_filesystems (category : String) (filesystems : List String)
    (other : category ≠ "heterogeneous_filesystems") : reported category (filesystemAnomalies filesystems) = [] :=
  reported_if_other category _ _ (Ne.symm other)

theorem reported_mounts (category : String) (mounts : List MountEntry) (other : category ≠ "ephemeral_state_dir")
    (another : category ≠ "root_read_only") : reported category (mounts.flatMap mountAnomalies) = [] := by
  rw [reported_flat_map, List.flatMap_eq_nil_iff]
  intro m _
  rw [mountAnomalies, reported_append, reported_if_other category _ _ (Ne.symm other),
    reported_if_other category _ _ (Ne.symm another)]
  rfl

theorem reported_memory {F : Type} [F64Text F] (category : String) (mem : MemInfo) (other : category ≠ "memory_pressure")
    (another : category ≠ "no_swap") : reported category (memoryAnomalies F mem) = [] := by
  rw [memoryAnomalies, reported_append, reported_if_other category _ _ (Ne.symm other),
    reported_if_other category _ _ (Ne.symm another)]
  rfl

end Categories

end Hpc.Diag
