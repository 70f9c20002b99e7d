import Hpc.Lib.Counters
import Hpc.Core.Duration
import Hpc.Agent.ProcFs

set_option autoImplicit false

namespace Hpc.Agent

open Hpc.Core Hpc.Lib

-- What the rates need of f64 besides: Duration::as_secs_f64, and the cast `as u64`.
class F64Rate (F : Type) extends F64 F where
  asSecs : Duration → F
  toU64 : F → UInt64

-- A negative value is cast to the least integer, a large one to the greatest, and not-a-number to zero.
def exactToU64 : ExactF64 → UInt64
  | .nan => 0
  | .infinite negative => if negative then 0 else UInt64.ofNat (2 ^ 64 - 1)
  | .finite value => UInt64.ofNat (min value.floor.toNat (2 ^ 64 - 1))

instance : F64Rate ExactF64 where
  asSecs d := .finite (d.toNanos / Duration.nanosPerSec)
  toU64 := exactToU64

-- /proc/net/dev, in which the kernel lists each interface once.
structure NetDev where
  content : Option String
  distinct : ((interfaces content).map Prod.fst).Nodup

structure Volume where
  name : String
  mountPoint : String
  fileSystem : String
  totalSpace : UInt64
  availableSpace : UInt64

-- What the machine shows at one call of collect. The instants are spans since a fixed one.
structure Machine (F : Type) where
  instant : Duration
  timestamp : UInt64
  cpu : CpuMetrics F
  memory : MemoryMetrics
  load : LoadMetrics F
  volumes : List Volume
  diskstats : Option String
  netDev : NetDev

structure Prev where
  instant : Duration
  disk : StrMap (UInt64 × UInt64)
  net : NetCounters

structure Collector where
  nodeId : NodeId
  prev : Option Prev

def durationSince (now earlier : Duration) : Duration :=
  let nanos := now.toNanos - earlier.toNanos
  Duration.ofParts (UInt64.ofNat (nanos / Duration.nanosPerSec)) nanos

section Collect

variable {F : Type} [F64Rate F]

def rate (cur old : UInt64) (secs : F) : UInt64 :=
  if F64.ge (F64.ofU64 0) secs then 0
  else F64Rate.toU64 (F64.div (F64.ofU64 (saturatingSub cur old)) secs)

def Collector.elapsed (collector : Collector) (now : Duration) : Option F :=
  (collector.prev.map fun p => F64Rate.asSecs (durationSince now p.instant)).filter fun s =>
    F64.ge s (F64.ofU64 0) && !F64.ge (F64.ofU64 0) s

def shortName (device : String) : String := String.ofList ((device.toList.splitOn '/').getLast?.getD [])

def Collector.buildDisks (collector : Collector) (volumes : List Volume) (curIo : StrMap (UInt64 × UInt64))
    (elapsed : Option F) : List (DiskMetrics F) :=
  volumes.map fun d =>
    let short := shortName d.name
    let rates := match elapsed, collector.prev with
      | some secs, some prev =>
          let cur := curIo[short]?.getD (0, 0)
          let old := prev.disk[short]?.getD cur
          (rate cur.1 old.1 secs, rate cur.2 old.2 secs)
      | _, _ => (0, 0)
    ⟨d.name, d.mountPoint, d.fileSystem, d.totalSpace, d.availableSpace, rates.1, rates.2, F64.ofU64 0⟩

def Collector.buildNetwork (collector : Collector) (cur : NetCounters) (elapsed : Option F) : NetworkMetrics :=
  match elapsed, collector.prev with
  | some secs, some prev =>
      ⟨rate cur.rx prev.net.rx secs, rate cur.tx prev.net.tx secs, saturatingSub cur.rxe prev.net.rxe,
        saturatingSub cur.txe prev.net.txe⟩
  | _, _ => ⟨0, 0, 0, 0⟩

def Collector.collect (collector : Collector) (machine : Machine F) : MetricsReport F × Collector :=
  let elapsed : Option F := collector.elapsed machine.instant
  let curDiskIo := readDiskstats machine.diskstats
  let disks := collector.buildDisks machine.volumes curDiskIo elapsed
  let curNet := readNetDev machine.netDev.content
  let network := collector.buildNetwork curNet elapsed
  (⟨collector.nodeId, machine.timestamp, machine.cpu, machine.memory, machine.load, disks, network, []⟩,
    { collector with prev := some ⟨machine.instant, curDiskIo, curNet⟩ })

def perSecond (elapsed : Option F) (delta : UInt64) : UInt64 :=
  elapsed.elim 0 fun secs =>
    if F64.ge (F64.ofU64 0) secs then 0 else F64Rate.toU64 (F64.div (F64.ofU64 delta) secs)

def Collector.netDeltas (collector : Collector) (machine : Machine F) : NetCounters :=
  let cur := readNetDev machine.netDev.content
  match (collector.elapsed machine.instant : Option F), collector.prev with
  | some _, some prev =>
      ⟨saturatingSub cur.rx prev.net.rx, saturatingSub cur.tx prev.net.tx, saturatingSub cur.rxe prev.net.rxe,
        saturatingSub cur.txe prev.net.txe⟩
  | _, _ => NetCounters.zero

theorem collect_network (collector : Collector) (machine : Machine F) :
    (collector.collect machine).1.network =
      ⟨perSecond (collector.elapsed machine.instant : Option F) (collector.netDeltas machine).rx,
        perSecond (collector.elapsed machine.instant : Option F) (collector.netDeltas machine).tx,
        (collector.netDeltas machine).rxe, (collector.netDeltas machine).txe⟩ := by
  change collector.buildNetwork (readNetDev machine.netDev.content) (collector.elapsed machine.instant : Option F) = _
  cases measured : (collector.elapsed machine.instant : Option F) with
  | none => simp [Collector.buildNetwork, Collector.netDeltas, measured, perSecond, NetCounters.zero]
  | some secs =>
      cases known : collector.prev with
      | none => simp [Collector.elapsed, known] at measured
      | some prev =>
          simp only [Collector.buildNetwork, Collector.netDeltas, measured, known]
          rfl

-- The deltas of one device: none of a device that is not in both samples.
def diskDeltas (cur old : Option (UInt64 × UInt64)) : UInt64 × UInt64 :=
  match cur, old with
  | some cur, some old => (saturatingSub cur.1 old.1, saturatingSub cur.2 old.2)
  | _, _ => (0, 0)

theorem saturating_sub_self (a : UInt64) : saturatingSub a a = 0 := by
  rw [← UInt64.toNat_inj, saturating_sub_nat, Nat.sub_self]
  rfl

theorem saturating_sub_zero (a : UInt64) : saturatingSub 0 a = 0 := by
  rw [← UInt64.toNat_inj, saturating_sub_nat]
  exact Nat.zero_sub a.toNat

theorem build_disks_deltas (collector : Collector) (prev : Prev) (known : collector.prev = some prev) (volumes : List Volume)
    (curIo : StrMap (UInt64 × UInt64)) (elapsed : Option F) :
    (collector.buildDisks volumes curIo elapsed).map (fun disk => (disk.readBytesPerSec, disk.writeBytesPerSec)) =
      volumes.map fun d =>
        let deltas := diskDeltas curIo[shortName d.name]? prev.disk[shortName d.name]?
        (perSecond elapsed deltas.1, perSecond elapsed deltas.2) := by
  rw [Collector.buildDisks, List.map_map]
  apply List.map_congr_left
  intro d _
  cases elapsed with
  | none => rfl
  | some secs =>
      simp only [Function.comp_apply, known]
      cases old : prev.disk[shortName d.name]? with
      | some old => cases cur : curIo[shortName d.name]? <;> simp [diskDeltas, perSecond, rate, saturating_sub_zero]
      | none => cases cur : curIo[shortName d.name]? <;> simp [diskDeltas, perSecond, rate, saturating_sub_self]

end Collect

end Hpc.Agent
