import Mathlib.Data.List.Nodup
import Hpc.Core.F64
import Hpc.Core.Layout

set_option autoImplicit false

namespace Hpc.Diag

open Hpc.Core

structure MemInfo where
  memTotalKb : UInt64
  memFreeKb : UInt64
  memAvailableKb : UInt64
  buffersKb : UInt64
  cachedKb : UInt64
  swapTotalKb : UInt64
  swapFreeKb : UInt64
deriving DecidableEq, Repr

structure DiskStat where
  device : String
  readsCompleted : UInt64
  sectorsRead : UInt64
  writesCompleted : UInt64
  sectorsWritten : UInt64
deriving DecidableEq, Repr

structure NetDev where
  interface : String
  rxBytes : UInt64
  rxErrs : UInt64
  txBytes : UInt64
  txErrs : UInt64
deriving DecidableEq, Repr

structure MountEntry where
  device : String
  mountPoint : String
  fsType : String
  options : List String
deriving DecidableEq, Repr

structure KernelInfo where
  raw : String
  release : String
deriving DecidableEq, Repr

section Meminfo

def MemInfo.zero : MemInfo := ⟨0, 0, 0, 0, 0, 0, 0⟩

def MemInfo.availableFraction {F : Type} [F64 F] (m : MemInfo) : F :=
  if m.memTotalKb = 0 then F64.ofU64 0 else F64.div (F64.ofU64 m.memAvailableKb) (F64.ofU64 m.memTotalKb)

def MemInfo.set (m : MemInfo) (key : String) (value : UInt64) : MemInfo :=
  match key with
  | "MemTotal" => { m with memTotalKb := value }
  | "MemFree" => { m with memFreeKb := value }
  | "MemAvailable" => { m with memAvailableKb := value }
  | "Buffers" => { m with buffersKb := value }
  | "Cached" => { m with cachedKb := value }
  | "SwapTotal" => { m with swapTotalKb := value }
  | "SwapFree" => { m with swapFreeKb := value }
  | _ => m

def memLine (line : List Char) : Option (String × Option UInt64) :=
  (splitOnce ':' line).map fun parts =>
    (String.ofList (trim isWhiteSpace parts.1), (words isWhiteSpace parts.2).head?.bind parseU64)

def meminfoRows (text : String) : List (String × Option UInt64) := (lines text.toList).filterMap memLine

def parseMeminfo (text : String) : MemInfo :=
  (meminfoRows text).foldl (fun m row => m.set row.1 (row.2.getD 0)) MemInfo.zero

inductive MemKey where
  | memTotal
  | memFree
  | memAvailable
  | buffers
  | cached
  | swapTotal
  | swapFree
deriving DecidableEq, Repr

def MemKey.name : MemKey → String
  | .memTotal => "MemTotal"
  | .memFree => "MemFree"
  | .memAvailable => "MemAvailable"
  | .buffers => "Buffers"
  | .cached => "Cached"
  | .swapTotal => "SwapTotal"
  | .swapFree => "SwapFree"

def MemInfo.get (m : MemInfo) : MemKey → UInt64
  | .memTotal => m.memTotalKb
  | .memFree => m.memFreeKb
  | .memAvailable => m.memAvailableKb
  | .buffers => m.buffersKb
  | .cached => m.cachedKb
  | .swapTotal => m.swapTotalKb
  | .swapFree => m.swapFreeKb

theorem set_get (m : MemInfo) (key : String) (value : UInt64) (known : MemKey) :
    (m.set key value).get known = if key = known.name then value else m.get known := by
  by_cases same : key = known.name
  · rw [if_pos same, same]
    cases known <;> rfl
  · rw [if_neg same]
    fun_cases MemInfo.set m key value
    case case8 => rfl
    all_goals cases known <;> first | rfl | exact absurd rfl same

theorem mem_info_ext (a b : MemInfo) (same : ∀ known, a.get known = b.get known) : a = b := by
  obtain ⟨_, _, _, _, _, _, _⟩ := a
  obtain ⟨_, _, _, _, _, _, _⟩ := b
  have total := same .memTotal
  have free := same .memFree
  have available := same .memAvailable
  have buffers := same .buffers
  have cached := same .cached
  have swapTotal := same .swapTotal
  have swapFree := same .swapFree
  simp only [MemInfo.get] at total free available buffers cached swapTotal swapFree
  rw [total, free, available, buffers, cached, swapTotal, swapFree]

def lastRow {A : Type} (rows : List (String × A)) (key : String) : Option A := rows.reverse.lookup key

theorem meminfo_fold_get (rows : List (String × Option UInt64)) (m : MemInfo) (known : MemKey) :
    (rows.foldl (fun m row => m.set row.1 (row.2.getD 0)) m).get known =
      ((lastRow rows known.name).map fun value => value.getD 0).getD (m.get known) := by
  induction rows generalizing m with
  | nil => rfl
  | cons row rest ih =>
      rw [List.foldl_cons, ih, lastRow, lastRow, List.reverse_cons, List.lookup_append]
      cases later : rest.reverse.lookup known.name with
      | some value => rfl
      | none =>
          obtain ⟨key, value⟩ := row
          rw [Option.none_or, Option.map_none, Option.getD_none, set_get, List.lookup_cons, List.lookup_nil]
          by_cases same : key = known.name
          · simp [same]
          · have other : (known.name == key) = false := by simpa using Ne.symm same
            simp [same, other]

theorem meminfo_get (text : String) (known : MemKey) :
    (parseMeminfo text).get known =
      ((lastRow (meminfoRows text) known.name).map fun value => value.getD 0).getD 0 := by
  have zero : MemInfo.zero.get known = 0 := by cases known <;> rfl
  rw [parseMeminfo, meminfo_fold_get, zero]

theorem last_row_unique {A : Type} (rows : List (String × A)) (key : String) (value : A)
    (distinct : (rows.map Prod.fst).Nodup) (member : (key, value) ∈ rows) : lastRow rows key = some value := by
  obtain ⟨front, rest, split⟩ := List.append_of_mem (List.mem_reverse.mpr member)
  have backwards : (rows.reverse.map Prod.fst).Nodup := by
    rw [List.map_reverse]
    exact List.nodup_reverse.mpr distinct
  rw [split, List.map_append, List.nodup_append] at backwards
  rw [lastRow, List.lookup_eq_some_iff]
  apply Exists.intro front
  apply Exists.intro rest
  apply And.intro split
  intro other before
  have apart := backwards.2.2 other.1 (List.mem_map_of_mem before) key (by simp)
  simpa using Ne.symm apart

theorem last_row_none {A : Type} (rows : List (String × A)) (key : String) (absent : ∀ row ∈ rows, row.1 ≠ key) :
    lastRow rows key = none := by
  rw [lastRow, List.lookup_eq_none_iff]
  intro row member
  simpa using Ne.symm (absent row (List.mem_reverse.mp member))

end Meminfo

section Tables

def column (f : List (List Char)) (index : Nat) : Option UInt64 := f[index]?.bind parseU64

def diskStat (line : List Char) : Option DiskStat :=
  let f := words isWhiteSpace line
  if f.length < 10 then none
  else
    some ⟨String.ofList (f[2]?.getD []), (column f 3).getD 0, (column f 5).getD 0, (column f 7).getD 0, (column f 9).getD 0⟩

def parseDiskstats (text : String) : List DiskStat := (lines text.toList).filterMap diskStat

def netDev (line : List Char) : Option NetDev :=
  match splitOnce ':' line with
  | none => none
  | some (iface, rest) =>
      let f := words isWhiteSpace rest
      if f.length < 11 then none
      else
        some ⟨String.ofList (trim isWhiteSpace iface), (column f 0).getD 0, (column f 2).getD 0, (column f 8).getD 0,
          (column f 10).getD 0⟩

def parseNetDev (text : String) : List NetDev := (lines text.toList).filterMap netDev

def mountEntry (line : List Char) : Option MountEntry :=
  let f := words isWhiteSpace line
  if f.length < 4 then none
  else
    some ⟨String.ofList (f[0]?.getD []), String.ofList (f[1]?.getD []), String.ofList (f[2]?.getD []),
      ((f[3]?.getD []).splitOn ',').map String.ofList⟩

def parseMounts (text : String) : List MountEntry := (lines text.toList).filterMap mountEntry

end Tables

section Kernel

def parseU32 (word : List Char) : Option UInt32 :=
  (parseU64 word).bind fun value => if value.toNat < 2 ^ 32 then some value.toUInt32 else none

def KernelInfo.versionPair (kernel : KernelInfo) : Option (UInt32 × UInt32) := do
  let parts := kernel.release.toList.splitOnP fun c => c == '.' || c == '-'
  let major ← parts[0]?.bind parseU32
  let minor ← parts[1]?.bind parseU32
  return (major, minor)

def parseVersion (text : String) : KernelInfo :=
  let raw := trim isWhiteSpace text.toList
  ⟨String.ofList raw, String.ofList ((words isWhiteSpace raw)[2]?.getD [])⟩

end Kernel

end Hpc.Diag
