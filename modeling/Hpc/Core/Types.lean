import Mathlib
import Hpc.Core.F64

set_option autoImplicit false

namespace Hpc.Core

abbrev NodeId := String

-- HashMap, BTreeMap and the store's tables are finite maps. A map enumerates its keys in ascending order, as BTreeMap and
-- the store do.
abbrev StrMap (V : Type) := Std.ExtTreeMap String V

theorem lookup_insert {V : Type} (table : StrMap V) (key query : String) (value : V) :
    (table.insert key value)[query]? = if key = query then some value else table[query]? := by
  simp [Std.ExtTreeMap.getElem?_insert]

theorem lookup_erase {V : Type} (table : StrMap V) (key query : String) :
    (table.erase key)[query]? = if key = query then none else table[query]? := by
  simp [Std.ExtTreeMap.getElem?_erase]

theorem insert_eq_self_iff {V : Type} (table : StrMap V) (key : String) (value : V) :
    table.insert key value = table ↔ table[key]? = some value := by
  apply Iff.intro
  · intro same
    rw [← same, lookup_insert, if_pos rfl]
  · intro found
    apply Std.ExtTreeMap.ext_getElem?
    intro query
    rw [lookup_insert]
    by_cases same : key = query
    · rw [if_pos same, ← same, found]
    · rw [if_neg same]

theorem erase_eq_self_iff {V : Type} (table : StrMap V) (key : String) :
    table.erase key = table ↔ table[key]? = none := by
  apply Iff.intro
  · intro same
    rw [← same, lookup_erase, if_pos rfl]
  · intro absent
    apply Std.ExtTreeMap.ext_getElem?
    intro query
    rw [lookup_erase]
    by_cases same : key = query
    · rw [if_pos same, ← same, absent]
    · rw [if_neg same]

inductive NodeRole where
  | unspecified
  | storage
  | compute
  | metadata
  | gateway
deriving DecidableEq, Repr

inductive NodeStatus where
  | registered
  | healthy
  | degraded
  | unreachable
  | draining
deriving DecidableEq, Repr

structure NodeInfo where
  nodeId : NodeId
  hostname : String
  ipAddress : String
  role : NodeRole
  cpuCores : UInt32
  totalMemoryBytes : UInt64
  totalDiskBytes : UInt64
  agentVersion : String
  kernelVersion : String
  os : String
  startedAtUnix : UInt64
  labels : StrMap String
deriving DecidableEq

structure CpuMetrics (F : Type) where
  usagePercent : F
  perCorePercent : List F
deriving DecidableEq

structure MemoryMetrics where
  totalBytes : UInt64
  usedBytes : UInt64
  availableBytes : UInt64
  swapTotalBytes : UInt64
  swapUsedBytes : UInt64
deriving DecidableEq

structure LoadMetrics (F : Type) where
  one : F
  five : F
  fifteen : F
deriving DecidableEq

structure DiskMetrics (F : Type) where
  device : String
  mountPoint : String
  fsType : String
  totalBytes : UInt64
  availableBytes : UInt64
  readBytesPerSec : UInt64
  writeBytesPerSec : UInt64
  ioUtilizationPercent : F
deriving DecidableEq

structure NetworkMetrics where
  rxBytesPerSec : UInt64
  txBytesPerSec : UInt64
  rxErrors : UInt64
  txErrors : UInt64
deriving DecidableEq

structure FilesystemMetrics where
  name : String
  mountPoint : String
  mounted : Bool
  totalBytes : UInt64
  usedBytes : UInt64
  inodesTotal : UInt64
  inodesUsed : UInt64
deriving DecidableEq

structure MetricsReport (F : Type) where
  nodeId : NodeId
  timestampUnix : UInt64
  cpu : CpuMetrics F
  memory : MemoryMetrics
  load : LoadMetrics F
  disks : List (DiskMetrics F)
  network : NetworkMetrics
  filesystems : List FilesystemMetrics
deriving DecidableEq

inductive DeployAction where
  | install
  | upgrade
  | rollback
  | remove
deriving DecidableEq, Repr

structure DeploySpec where
  deploymentId : String
  action : DeployAction
  component : String
  version : String
  targetPath : String
  options : StrMap String
deriving DecidableEq

inductive FsAction where
  | mount
  | unmount
  | remount
  | check
  | format
deriving DecidableEq, Repr

structure FsSpec where
  commandId : String
  action : FsAction
  device : String
  mountPoint : String
  fsType : String
  mountOptions : List String
  force : Bool
deriving DecidableEq

structure CommandOutcome where
  commandId : String
  nodeId : NodeId
  success : Bool
  exitCode : Int32
  message : String
  stdout : String
  stderr : String
  completedAtUnix : UInt64
deriving DecidableEq

structure NodeRecord (F : Type) where
  info : NodeInfo
  status : NodeStatus
  lastSeenUnix : UInt64
  latestMetrics : Option (MetricsReport F)
deriving DecidableEq

def NodeRecord.new {F : Type} (info : NodeInfo) (now : UInt64) : NodeRecord F :=
  ⟨info, .registered, now, none⟩

def saturatingSub (a b : UInt64) : UInt64 := if b ≤ a then a - b else 0

theorem saturating_sub_nat (a b : UInt64) : (saturatingSub a b).toNat = a.toNat - b.toNat := by
  rw [saturatingSub]
  split
  · rename_i enough
    exact UInt64.toNat_sub_of_le a b enough
  · rename_i short
    have less := mt UInt64.le_iff_toNat_le.mpr short
    change 0 = _
    omega

section Fractions

variable {F : Type} [F64 F]

def MemoryMetrics.usedFraction (memory : MemoryMetrics) : F :=
  if memory.totalBytes = 0 then F64.ofU64 0
  else F64.div (F64.ofU64 memory.usedBytes) (F64.ofU64 memory.totalBytes)

def DiskMetrics.usedFraction (disk : DiskMetrics F) : F :=
  if disk.totalBytes = 0 then F64.ofU64 0
  else F64.div (F64.ofU64 (saturatingSub disk.totalBytes disk.availableBytes)) (F64.ofU64 disk.totalBytes)

end Fractions

end Hpc.Core
