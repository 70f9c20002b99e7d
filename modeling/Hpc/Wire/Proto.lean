import Hpc.Core.Types

set_option autoImplicit false

namespace Hpc.Wire

open Hpc.Core

-- The generated messages. An absent sub-message is none, an enum field is the raw i32 read from the wire, and at most one
-- payload of a Command is set.
namespace Pb

inductive NodeRole where
  | unspecified
  | storage
  | compute
  | metadata
  | gateway
deriving DecidableEq

inductive DeployAction where
  | unspecified
  | install
  | upgrade
  | rollback
  | remove
deriving DecidableEq

inductive FsAction where
  | unspecified
  | mount
  | unmount
  | remount
  | check
  | format
deriving DecidableEq

structure NodeInfo where
  nodeId : String
  hostname : String
  ipAddress : String
  role : Int32
  cpuCores : UInt32
  totalMemoryBytes : UInt64
  totalDiskBytes : UInt64
  agentVersion : String
  kernelVersion : String
  os : String
  startedAtUnix : UInt64
  labels : StrMap String

structure CpuMetrics (F : Type) where
  usagePercent : F
  perCorePercent : List F

structure MemoryMetrics where
  totalBytes : UInt64
  usedBytes : UInt64
  availableBytes : UInt64
  swapTotalBytes : UInt64
  swapUsedBytes : UInt64

structure LoadMetrics (F : Type) where
  one : F
  five : F
  fifteen : F

structure DiskMetrics (F : Type) where
  device : String
  mountPoint : String
  fsType : String
  totalBytes : UInt64
  availableBytes : UInt64
  readBytesPerSec : UInt64
  writeBytesPerSec : UInt64
  ioUtilizationPercent : F

structure NetworkMetrics where
  rxBytesPerSec : UInt64
  txBytesPerSec : UInt64
  rxErrors : UInt64
  txErrors : UInt64

structure FilesystemMetrics where
  name : String
  mountPoint : String
  mounted : Bool
  totalBytes : UInt64
  usedBytes : UInt64
  inodesTotal : UInt64
  inodesUsed : UInt64

structure MetricsReport (F : Type) where
  nodeId : String
  timestampUnix : UInt64
  cpu : Option (CpuMetrics F)
  memory : Option MemoryMetrics
  load : Option (LoadMetrics F)
  disks : List (DiskMetrics F)
  network : Option NetworkMetrics
  filesystems : List FilesystemMetrics

structure DeployCommand where
  deploymentId : String
  action : Int32
  component : String
  version : String
  targetPath : String
  options : StrMap String
deriving DecidableEq

structure FsCommand where
  commandId : String
  action : Int32
  device : String
  mountPoint : String
  fsType : String
  mountOptions : List String
  force : Bool
deriving DecidableEq

inductive Payload where
  | deploy (command : DeployCommand)
  | fs (command : FsCommand)
deriving DecidableEq

structure Command where
  commandId : String
  issuedAtUnix : UInt64
  payload : Option Payload
deriving DecidableEq

structure NodeRef where
  nodeId : String
  clusterEpoch : UInt64
deriving DecidableEq

structure CommandResult where
  commandId : String
  nodeId : String
  success : Bool
  exitCode : Int32
  message : String
  stdout : String
  stderr : String
  completedAtUnix : UInt64
deriving DecidableEq

-- The discriminants of the .proto file and the generated TryFrom<i32>.
def NodeRole.toI32 : NodeRole → Int32
  | .unspecified => 0
  | .storage => 1
  | .compute => 2
  | .metadata => 3
  | .gateway => 4

def NodeRole.tryFrom (v : Int32) : Option NodeRole :=
  if v = 0 then some .unspecified else if v = 1 then some .storage else if v = 2 then some .compute
  else if v = 3 then some .metadata else if v = 4 then some .gateway else none

def DeployAction.toI32 : DeployAction → Int32
  | .unspecified => 0
  | .install => 1
  | .upgrade => 2
  | .rollback => 3
  | .remove => 4

def DeployAction.tryFrom (v : Int32) : Option DeployAction :=
  if v = 0 then some .unspecified else if v = 1 then some .install else if v = 2 then some .upgrade
  else if v = 3 then some .rollback else if v = 4 then some .remove else none

def FsAction.toI32 : FsAction → Int32
  | .unspecified => 0
  | .mount => 1
  | .unmount => 2
  | .remount => 3
  | .check => 4
  | .format => 5

def FsAction.tryFrom (v : Int32) : Option FsAction :=
  if v = 0 then some .unspecified else if v = 1 then some .mount else if v = 2 then some .unmount
  else if v = 3 then some .remount else if v = 4 then some .check else if v = 5 then some .format else none

end Pb

-- Both crates carry the same conversions; one copy stands for the two files.
def roleToPb (r : NodeRole) : Int32 :=
  Pb.NodeRole.toI32 <| match r with
    | .unspecified => .unspecified
    | .storage => .storage
    | .compute => .compute
    | .metadata => .metadata
    | .gateway => .gateway

def roleFromPb (v : Int32) : NodeRole :=
  match (Pb.NodeRole.tryFrom v).getD .unspecified with
  | .unspecified => .unspecified
  | .storage => .storage
  | .compute => .compute
  | .metadata => .metadata
  | .gateway => .gateway

def deployActionToPb (a : DeployAction) : Int32 :=
  Pb.DeployAction.toI32 <| match a with
    | .install => .install
    | .upgrade => .upgrade
    | .rollback => .rollback
    | .remove => .remove

def deployActionFromPb (v : Int32) : DeployAction :=
  match (Pb.DeployAction.tryFrom v).getD .unspecified with
  | .unspecified => .install
  | .install => .install
  | .upgrade => .upgrade
  | .rollback => .rollback
  | .remove => .remove

def fsActionToPb (a : FsAction) : Int32 :=
  Pb.FsAction.toI32 <| match a with
    | .mount => .mount
    | .unmount => .unmount
    | .remount => .remount
    | .check => .check
    | .format => .format

def fsActionFromPb (v : Int32) : FsAction :=
  match (Pb.FsAction.tryFrom v).getD .unspecified with
  | .unspecified => .mount
  | .mount => .mount
  | .unmount => .unmount
  | .remount => .remount
  | .check => .check
  | .format => .format

-- Both map types are read as finite maps, so re-collecting one is the identity.
def mapToBtree (m : StrMap String) : StrMap String := m
def btreeToMap (m : StrMap String) : StrMap String := m

def nodeInfoFromPb (p : Pb.NodeInfo) : NodeInfo where
  nodeId := p.nodeId
  hostname := p.hostname
  ipAddress := p.ipAddress
  role := roleFromPb p.role
  cpuCores := p.cpuCores
  totalMemoryBytes := p.totalMemoryBytes
  totalDiskBytes := p.totalDiskBytes
  agentVersion := p.agentVersion
  kernelVersion := p.kernelVersion
  os := p.os
  startedAtUnix := p.startedAtUnix
  labels := mapToBtree p.labels

def nodeInfoToPb (n : NodeInfo) : Pb.NodeInfo where
  role := roleToPb n.role
  nodeId := n.nodeId
  hostname := n.hostname
  ipAddress := n.ipAddress
  cpuCores := n.cpuCores
  totalMemoryBytes := n.totalMemoryBytes
  totalDiskBytes := n.totalDiskBytes
  agentVersion := n.agentVersion
  kernelVersion := n.kernelVersion
  os := n.os
  startedAtUnix := n.startedAtUnix
  labels := btreeToMap n.labels

section Metrics

variable {F : Type}

def cpuFromPb (p : Pb.CpuMetrics F) : CpuMetrics F where
  usagePercent := p.usagePercent
  perCorePercent := p.perCorePercent

def memoryFromPb (p : Pb.MemoryMetrics) : MemoryMetrics where
  totalBytes := p.totalBytes
  usedBytes := p.usedBytes
  availableBytes := p.availableBytes
  swapTotalBytes := p.swapTotalBytes
  swapUsedBytes := p.swapUsedBytes

def loadFromPb (p : Pb.LoadMetrics F) : LoadMetrics F where
  one := p.one
  five := p.five
  fifteen := p.fifteen

def diskFromPb (p : Pb.DiskMetrics F) : DiskMetrics F where
  device := p.device
  mountPoint := p.mountPoint
  fsType := p.fsType
  totalBytes := p.totalBytes
  availableBytes := p.availableBytes
  readBytesPerSec := p.readBytesPerSec
  writeBytesPerSec := p.writeBytesPerSec
  ioUtilizationPercent := p.ioUtilizationPercent

def networkFromPb (p : Pb.NetworkMetrics) : NetworkMetrics where
  rxBytesPerSec := p.rxBytesPerSec
  txBytesPerSec := p.txBytesPerSec
  rxErrors := p.rxErrors
  txErrors := p.txErrors

def filesystemFromPb (p : Pb.FilesystemMetrics) : FilesystemMetrics where
  name := p.name
  mountPoint := p.mountPoint
  mounted := p.mounted
  totalBytes := p.totalBytes
  usedBytes := p.usedBytes
  inodesTotal := p.inodesTotal
  inodesUsed := p.inodesUsed

def cpuToPb (c : CpuMetrics F) : Pb.CpuMetrics F where
  usagePercent := c.usagePercent
  perCorePercent := c.perCorePercent

def memoryToPb (m : MemoryMetrics) : Pb.MemoryMetrics where
  totalBytes := m.totalBytes
  usedBytes := m.usedBytes
  availableBytes := m.availableBytes
  swapTotalBytes := m.swapTotalBytes
  swapUsedBytes := m.swapUsedBytes

def loadToPb (l : LoadMetrics F) : Pb.LoadMetrics F where
  one := l.one
  five := l.five
  fifteen := l.fifteen

def diskToPb (d : DiskMetrics F) : Pb.DiskMetrics F where
  device := d.device
  mountPoint := d.mountPoint
  fsType := d.fsType
  totalBytes := d.totalBytes
  availableBytes := d.availableBytes
  readBytesPerSec := d.readBytesPerSec
  writeBytesPerSec := d.writeBytesPerSec
  ioUtilizationPercent := d.ioUtilizationPercent

def networkToPb (n : NetworkMetrics) : Pb.NetworkMetrics where
  rxBytesPerSec := n.rxBytesPerSec
  txBytesPerSec := n.txBytesPerSec
  rxErrors := n.rxErrors
  txErrors := n.txErrors

def filesystemToPb (f : FilesystemMetrics) : Pb.FilesystemMetrics where
  name := f.name
  mountPoint := f.mountPoint
  mounted := f.mounted
  totalBytes := f.totalBytes
  usedBytes := f.usedBytes
  inodesTotal := f.inodesTotal
  inodesUsed := f.inodesUsed

def metricsReportToPb (m : MetricsReport F) : Pb.MetricsReport F where
  nodeId := m.nodeId
  timestampUnix := m.timestampUnix
  cpu := some (cpuToPb m.cpu)
  memory := some (memoryToPb m.memory)
  load := some (loadToPb m.load)
  disks := m.disks.map diskToPb
  network := some (networkToPb m.network)
  filesystems := m.filesystems.map filesystemToPb

variable [F64 F]

def metricsReportFromPb (p : Pb.MetricsReport F) : MetricsReport F where
  nodeId := p.nodeId
  timestampUnix := p.timestampUnix
  cpu := (p.cpu.map cpuFromPb).getD ⟨F64.ofU64 0, []⟩
  memory := (p.memory.map memoryFromPb).getD ⟨0, 0, 0, 0, 0⟩
  load := (p.load.map loadFromPb).getD ⟨F64.ofU64 0, F64.ofU64 0, F64.ofU64 0⟩
  disks := p.disks.map diskFromPb
  network := (p.network.map networkFromPb).getD ⟨0, 0, 0, 0⟩
  filesystems := p.filesystems.map filesystemFromPb

end Metrics

def deploySpecToPb (d : DeploySpec) : Pb.DeployCommand where
  deploymentId := d.deploymentId
  action := deployActionToPb d.action
  component := d.component
  version := d.version
  targetPath := d.targetPath
  options := btreeToMap d.options

def deploySpecFromPb (p : Pb.DeployCommand) : DeploySpec where
  deploymentId := p.deploymentId
  action := deployActionFromPb p.action
  component := p.component
  version := p.version
  targetPath := p.targetPath
  options := mapToBtree p.options

def fsSpecToPb (f : FsSpec) : Pb.FsCommand where
  commandId := f.commandId
  action := fsActionToPb f.action
  device := f.device
  mountPoint := f.mountPoint
  fsType := f.fsType
  mountOptions := f.mountOptions
  force := f.force

def fsSpecFromPb (p : Pb.FsCommand) : FsSpec where
  commandId := p.commandId
  action := fsActionFromPb p.action
  device := p.device
  mountPoint := p.mountPoint
  fsType := p.fsType
  mountOptions := p.mountOptions
  force := p.force

def outcomeFromPb (p : Pb.CommandResult) : CommandOutcome where
  commandId := p.commandId
  nodeId := p.nodeId
  success := p.success
  exitCode := p.exitCode
  message := p.message
  stdout := p.stdout
  stderr := p.stderr
  completedAtUnix := p.completedAtUnix

def outcomeToPb (o : CommandOutcome) : Pb.CommandResult where
  commandId := o.commandId
  nodeId := o.nodeId
  success := o.success
  exitCode := o.exitCode
  message := o.message
  stdout := o.stdout
  stderr := o.stderr
  completedAtUnix := o.completedAtUnix

theorem outcome_from_to_pb (o : CommandOutcome) : outcomeFromPb (outcomeToPb o) = o := rfl

theorem deploy_action_from_to_pb (a : DeployAction) : deployActionFromPb (deployActionToPb a) = a := by
  cases a <;> rfl

theorem fs_action_from_to_pb (a : FsAction) : fsActionFromPb (fsActionToPb a) = a := by
  cases a <;> rfl

theorem deploy_spec_from_to_pb (d : DeploySpec) : deploySpecFromPb (deploySpecToPb d) = d := by
  simp [deploySpecFromPb, deploySpecToPb, deploy_action_from_to_pb, mapToBtree, btreeToMap]

theorem fs_spec_from_to_pb (f : FsSpec) : fsSpecFromPb (fsSpecToPb f) = f := by
  simp [fsSpecFromPb, fsSpecToPb, fs_action_from_to_pb]

-- Only the discriminant 5 is read as a format; every unknown one is a mount.
theorem fs_action_format_iff (v : Int32) : fsActionFromPb v = .format ↔ v = Pb.FsAction.toI32 .format := by
  unfold fsActionFromPb Pb.FsAction.tryFrom Pb.FsAction.toI32
  apply Iff.intro
  · intro read
    by_contra other
    simp only [if_neg other] at read
    split_ifs at read <;> simp at read
  · rintro rfl
    rfl

end Hpc.Wire
