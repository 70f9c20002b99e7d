import Hpc.Core.Floats

set_option autoImplicit false

namespace Hpc.Core

open Hpc.Lib

-- A parsed JSON text. Numbers are kept as serde_json keeps them: an integer or a finite double.
inductive Json (F : Type) where
  | null
  | bool (value : Bool)
  | integer (value : Int)
  | float (value : F)
  | string (value : String)
  | array (items : List (Json F))
  | object (fields : List (String × Json F))

-- What is relied on of serde_json about f64: a finite one is written as a number that can be read back (not always as the
-- same double), any other as null; null is not a number, and no text is read as a double that is not finite.
structure SerdeF64 (F : Type) [F64 F] where
  write : F → Json F
  read : Json F → Except String F
  write_finite : ∀ x, F64.isFinite x = true → ∃ token, write x = .float token ∧ ∃ y, read (.float token) = .ok y
  write_other : ∀ x, F64.isFinite x = false → write x = .null
  read_null : ∃ message, read .null = .error message
  read_finite : ∀ token x, read token = .ok x → F64.isFinite x = true

def SerdeF64.reread {F : Type} [F64 F] (serde : SerdeF64 F) (x : F) : Except String F := serde.read (serde.write x)

def exactSerde : SerdeF64 ExactF64 where
  write
    | .finite value => .float (.finite value)
    | _ => .null
  read
    | .float (.finite value) => .ok (.finite value)
    | _ => .error "invalid type, expected f64"
  write_finite x finite := by cases x <;> simp_all [F64.isFinite, ExactF64.isFinite]
  write_other x other := by cases x <;> simp_all [F64.isFinite, ExactF64.isFinite]
  read_null := ⟨_, rfl⟩
  read_finite token x found := by
    split at found
    · cases found
      rfl
    · cases found

def rationalSerde : SerdeF64 ℚ where
  write x := .float x
  read
    | .float x => .ok x
    | _ => .error "invalid type, expected f64"
  write_finite x _ := ⟨x, rfl, x, rfl⟩
  write_other _ other := nomatch other
  read_null := ⟨_, rfl⟩
  read_finite _ _ _ := rfl

-- The derived serializers and deserializers. Objects are read by field name, unknown fields are skipped, and a field is
-- optional where serde(default) is.
section Leaves

variable {F : Type}

def writeU64 (n : UInt64) : Json F := .integer n.toNat
def writeU32 (n : UInt32) : Json F := .integer n.toNat
def writeI32 (n : Int32) : Json F := .integer n.toInt
def writeMap (m : StrMap String) : Json F := .object (m.toList.map fun (key, value) => (key, .string value))

def readU64 : Json F → Except String UInt64
  | .integer n => if 0 ≤ n ∧ n < 18446744073709551616 then .ok (UInt64.ofNat n.toNat) else .error "invalid value: integer, expected u64"
  | _ => .error "invalid type, expected u64"

def readU32 : Json F → Except String UInt32
  | .integer n => if 0 ≤ n ∧ n < 4294967296 then .ok (UInt32.ofNat n.toNat) else .error "invalid value: integer, expected u32"
  | _ => .error "invalid type, expected u32"

def readI32 : Json F → Except String Int32
  | .integer n =>
      if -2147483648 ≤ n ∧ n < 2147483648 then .ok (Int32.ofInt n) else .error "invalid value: integer, expected i32"
  | _ => .error "invalid type, expected i32"

def readBool : Json F → Except String Bool
  | .bool value => .ok value
  | _ => .error "invalid type, expected a boolean"

def readString : Json F → Except String String
  | .string value => .ok value
  | _ => .error "invalid type, expected a string"

def readArray {A : Type} (item : Json F → Except String A) : Json F → Except String (List A)
  | .array items => items.mapM item
  | _ => .error "invalid type, expected a sequence"

def readMap : Json F → Except String (StrMap String)
  | .object fields => do
      let entries ← fields.mapM fun (key, value) => (readString value).map fun text => (key, text)
      return Std.ExtTreeMap.ofList entries
  | _ => .error "invalid type, expected a map"

def field (fields : List (String × Json F)) (name : String) : Option (Json F) :=
  (fields.find? fun entry => entry.1 == name).map Prod.snd

def required {A : Type} (fields : List (String × Json F)) (name : String) (item : Json F → Except String A) :
    Except String A :=
  (field fields name).elim (.error ("missing field " ++ name)) item

def optional {A : Type} (fields : List (String × Json F)) (name : String) (default : A)
    (item : Json F → Except String A) : Except String A :=
  (field fields name).elim (.ok default) item

def writeRole : NodeRole → Json F
  | .unspecified => .string "unspecified"
  | .storage => .string "storage"
  | .compute => .string "compute"
  | .metadata => .string "metadata"
  | .gateway => .string "gateway"

def readRole : Json F → Except String NodeRole
  | .string "unspecified" => .ok .unspecified
  | .string "storage" => .ok .storage
  | .string "compute" => .ok .compute
  | .string "metadata" => .ok .metadata
  | .string "gateway" => .ok .gateway
  | _ => .error "unknown variant, expected a node role"

def writeStatus : NodeStatus → Json F
  | .registered => .string "registered"
  | .healthy => .string "healthy"
  | .degraded => .string "degraded"
  | .unreachable => .string "unreachable"
  | .draining => .string "draining"

def readStatus : Json F → Except String NodeStatus
  | .string "registered" => .ok .registered
  | .string "healthy" => .ok .healthy
  | .string "degraded" => .ok .degraded
  | .string "unreachable" => .ok .unreachable
  | .string "draining" => .ok .draining
  | _ => .error "unknown variant, expected a node status"

def writeOutcome (outcome : CommandOutcome) : Json F :=
  .object [("command_id", .string outcome.commandId), ("node_id", .string outcome.nodeId),
    ("success", .bool outcome.success), ("exit_code", writeI32 outcome.exitCode), ("message", .string outcome.message),
    ("stdout", .string outcome.stdout), ("stderr", .string outcome.stderr),
    ("completed_at_unix", writeU64 outcome.completedAtUnix)]

def readOutcome : Json F → Except String CommandOutcome
  | .object fields => do
      let commandId ← required fields "command_id" readString
      let nodeId ← required fields "node_id" readString
      let success ← required fields "success" readBool
      let exitCode ← required fields "exit_code" readI32
      let message ← required fields "message" readString
      let stdout ← required fields "stdout" readString
      let stderr ← required fields "stderr" readString
      let completedAtUnix ← required fields "completed_at_unix" readU64
      return ⟨commandId, nodeId, success, exitCode, message, stdout, stderr, completedAtUnix⟩
  | _ => .error "invalid type, expected struct CommandOutcome"

end Leaves

section Records

variable {F : Type} [F64 F] (serde : SerdeF64 F)

def writeInfo (info : NodeInfo) : Json F :=
  .object [("node_id", .string info.nodeId), ("hostname", .string info.hostname),
    ("ip_address", .string info.ipAddress), ("role", writeRole info.role), ("cpu_cores", writeU32 info.cpuCores),
    ("total_memory_bytes", writeU64 info.totalMemoryBytes), ("total_disk_bytes", writeU64 info.totalDiskBytes),
    ("agent_version", .string info.agentVersion), ("kernel_version", .string info.kernelVersion),
    ("os", .string info.os), ("started_at_unix", writeU64 info.startedAtUnix), ("labels", writeMap info.labels)]

def readInfo : Json F → Except String NodeInfo
  | .object fields => do
      let nodeId ← required fields "node_id" readString
      let hostname ← required fields "hostname" readString
      let ipAddress ← required fields "ip_address" readString
      let role ← required fields "role" readRole
      let cpuCores ← required fields "cpu_cores" readU32
      let totalMemoryBytes ← required fields "total_memory_bytes" readU64
      let totalDiskBytes ← required fields "total_disk_bytes" readU64
      let agentVersion ← required fields "agent_version" readString
      let kernelVersion ← required fields "kernel_version" readString
      let os ← required fields "os" readString
      let startedAtUnix ← required fields "started_at_unix" readU64
      let labels ← optional fields "labels" ∅ readMap
      return ⟨nodeId, hostname, ipAddress, role, cpuCores, totalMemoryBytes, totalDiskBytes, agentVersion,
        kernelVersion, os, startedAtUnix, labels⟩
  | _ => .error "invalid type, expected struct NodeInfo"

def writeCpu (cpu : CpuMetrics F) : Json F :=
  .object [("usage_percent", serde.write cpu.usagePercent),
    ("per_core_percent", .array (cpu.perCorePercent.map serde.write))]

def readCpu : Json F → Except String (CpuMetrics F)
  | .object fields => do
      let usagePercent ← required fields "usage_percent" serde.read
      let perCorePercent ← optional fields "per_core_percent" [] (readArray serde.read)
      return ⟨usagePercent, perCorePercent⟩
  | _ => .error "invalid type, expected struct CpuMetrics"

def writeMemory (memory : MemoryMetrics) : Json F :=
  .object [("total_bytes", writeU64 memory.totalBytes), ("used_bytes", writeU64 memory.usedBytes),
    ("available_bytes", writeU64 memory.availableBytes), ("swap_total_bytes", writeU64 memory.swapTotalBytes),
    ("swap_used_bytes", writeU64 memory.swapUsedBytes)]

def readMemory : Json F → Except String MemoryMetrics
  | .object fields => do
      let totalBytes ← required fields "total_bytes" readU64
      let usedBytes ← required fields "used_bytes" readU64
      let availableBytes ← required fields "available_bytes" readU64
      let swapTotalBytes ← required fields "swap_total_bytes" readU64
      let swapUsedBytes ← required fields "swap_used_bytes" readU64
      return ⟨totalBytes, usedBytes, availableBytes, swapTotalBytes, swapUsedBytes⟩
  | _ => .error "invalid type, expected struct MemoryMetrics"

def writeLoad (load : LoadMetrics F) : Json F :=
  .object [("one", serde.write load.one), ("five", serde.write load.five), ("fifteen", serde.write load.fifteen)]

def readLoad : Json F → Except String (LoadMetrics F)
  | .object fields => do
      let one ← required fields "one" serde.read
      let five ← required fields "five" serde.read
      let fifteen ← required fields "fifteen" serde.read
      return ⟨one, five, fifteen⟩
  | _ => .error "invalid type, expected struct LoadMetrics"

def writeDisk (disk : DiskMetrics F) : Json F :=
  .object [("device", .string disk.device), ("mount_point", .string disk.mountPoint),
    ("fs_type", .string disk.fsType), ("total_bytes", writeU64 disk.totalBytes),
    ("available_bytes", writeU64 disk.availableBytes), ("read_bytes_per_sec", writeU64 disk.readBytesPerSec),
    ("write_bytes_per_sec", writeU64 disk.writeBytesPerSec),
    ("io_utilization_percent", serde.write disk.ioUtilizationPercent)]

def readDisk : Json F → Except String (DiskMetrics F)
  | .object fields => do
      let device ← required fields "device" readString
      let mountPoint ← required fields "mount_point" readString
      let fsType ← required fields "fs_type" readString
      let totalBytes ← required fields "total_bytes" readU64
      let availableBytes ← required fields "available_bytes" readU64
      let readBytesPerSec ← required fields "read_bytes_per_sec" readU64
      let writeBytesPerSec ← required fields "write_bytes_per_sec" readU64
      let ioUtilizationPercent ← required fields "io_utilization_percent" serde.read
      return ⟨device, mountPoint, fsType, totalBytes, availableBytes, readBytesPerSec, writeBytesPerSec,
        ioUtilizationPercent⟩
  | _ => .error "invalid type, expected struct DiskMetrics"

def writeNetwork (network : NetworkMetrics) : Json F :=
  .object [("rx_bytes_per_sec", writeU64 network.rxBytesPerSec), ("tx_bytes_per_sec", writeU64 network.txBytesPerSec),
    ("rx_errors", writeU64 network.rxErrors), ("tx_errors", writeU64 network.txErrors)]

def readNetwork : Json F → Except String NetworkMetrics
  | .object fields => do
      let rxBytesPerSec ← required fields "rx_bytes_per_sec" readU64
      let txBytesPerSec ← required fields "tx_bytes_per_sec" readU64
      let rxErrors ← required fields "rx_errors" readU64
      let txErrors ← required fields "tx_errors" readU64
      return ⟨rxBytesPerSec, txBytesPerSec, rxErrors, txErrors⟩
  | _ => .error "invalid type, expected struct NetworkMetrics"

def writeFilesystem (fs : FilesystemMetrics) : Json F :=
  .object [("name", .string fs.name), ("mount_point", .string fs.mountPoint), ("mounted", .bool fs.mounted),
    ("total_bytes", writeU64 fs.totalBytes), ("used_bytes", writeU64 fs.usedBytes),
    ("inodes_total", writeU64 fs.inodesTotal), ("inodes_used", writeU64 fs.inodesUsed)]

def readFilesystem : Json F → Except String FilesystemMetrics
  | .object fields => do
      let name ← required fields "name" readString
      let mountPoint ← required fields "mount_point" readString
      let mounted ← required fields "mounted" readBool
      let totalBytes ← required fields "total_bytes" readU64
      let usedBytes ← required fields "used_bytes" readU64
      let inodesTotal ← required fields "inodes_total" readU64
      let inodesUsed ← required fields "inodes_used" readU64
      return ⟨name, mountPoint, mounted, totalBytes, usedBytes, inodesTotal, inodesUsed⟩
  | _ => .error "invalid type, expected struct FilesystemMetrics"

def writeReport (report : MetricsReport F) : Json F :=
  .object [("node_id", .string report.nodeId), ("timestamp_unix", writeU64 report.timestampUnix),
    ("cpu", writeCpu serde report.cpu), ("memory", writeMemory report.memory), ("load", writeLoad serde report.load),
    ("disks", .array (report.disks.map (writeDisk serde))), ("network", writeNetwork report.network),
    ("filesystems", .array (report.filesystems.map writeFilesystem))]

def readReport : Json F → Except String (MetricsReport F)
  | .object fields => do
      let nodeId ← required fields "node_id" readString
      let timestampUnix ← required fields "timestamp_unix" readU64
      let cpu ← required fields "cpu" (readCpu serde)
      let memory ← required fields "memory" readMemory
      let load ← required fields "load" (readLoad serde)
      let disks ← optional fields "disks" [] (readArray (readDisk serde))
      let network ← required fields "network" readNetwork
      let filesystems ← optional fields "filesystems" [] (readArray readFilesystem)
      return ⟨nodeId, timestampUnix, cpu, memory, load, disks, network, filesystems⟩
  | _ => .error "invalid type, expected struct MetricsReport"

def readLatest : Json F → Except String (Option (MetricsReport F))
  | .null => .ok none
  | value => (readReport serde value).map some

def writeRecord (record : NodeRecord F) : Json F :=
  .object [("info", writeInfo record.info), ("status", writeStatus record.status),
    ("last_seen_unix", writeU64 record.lastSeenUnix),
    ("latest_metrics", record.latestMetrics.elim .null (writeReport serde))]

def readRecord : Json F → Except String (NodeRecord F)
  | .object fields => do
      let info ← required fields "info" readInfo
      let status ← required fields "status" readStatus
      let lastSeenUnix ← required fields "last_seen_unix" readU64
      let latestMetrics ← optional fields "latest_metrics" none (readLatest serde)
      return ⟨info, status, lastSeenUnix, latestMetrics⟩
  | _ => .error "invalid type, expected struct NodeRecord"

end Records

section RoundTrip

variable {F : Type}

theorem read_write_u64 (n : UInt64) : readU64 (writeU64 n : Json F) = .ok n := by
  have bound : (n.toNat : Int) < 18446744073709551616 := by exact_mod_cast n.toNat_lt
  simp [readU64, writeU64, bound]

theorem read_write_u32 (n : UInt32) : readU32 (writeU32 n : Json F) = .ok n := by
  have bound : (n.toNat : Int) < 4294967296 := by exact_mod_cast n.toNat_lt
  simp [readU32, writeU32, bound]

theorem read_write_i32 (n : Int32) : readI32 (writeI32 n : Json F) = .ok n := by
  have low : -2147483648 ≤ n.toInt := n.le_toInt
  have high : n.toInt < 2147483648 := n.toInt_lt
  simp [readI32, writeI32, low, high]

theorem read_write_role (role : NodeRole) : readRole (writeRole role : Json F) = .ok role := by
  cases role <;> rfl

theorem read_write_status (status : NodeStatus) : readStatus (writeStatus status : Json F) = .ok status := by
  cases status <;> rfl

theorem of_list_to_list (m : StrMap String) : Std.ExtTreeMap.ofList m.toList = m := by
  apply Std.ExtTreeMap.ext_getElem?
  intro key
  cases found : m[key]? with
  | none =>
      have absent : key ∉ m := by simpa using found
      apply Std.ExtTreeMap.getElem?_ofList_of_contains_eq_false
      rw [Std.ExtTreeMap.map_fst_toList_eq_keys]
      simpa using absent
  | some value =>
      exact Std.ExtTreeMap.getElem?_ofList_of_mem (Std.LawfulEqCmp.compare_eq_iff_eq.mpr rfl)
        Std.ExtTreeMap.distinct_keys_toList (Std.ExtTreeMap.mem_toList_iff_getElem?_eq_some.mpr found)

theorem read_write_map (m : StrMap String) : readMap (writeMap m : Json F) = .ok m := by
  have entries : (m.toList.map fun (key, value) => (key, Json.string value)).mapM
      (fun (entry : String × Json F) => (readString entry.2).map fun text => (entry.1, text)) = .ok m.toList := by
    rw [mapM_ok_iff, List.forall₂_map_left_iff, List.forall₂_same]
    exact fun entry _ => rfl
  unfold readMap writeMap
  rw [bind_eq_ok_iff]
  exact ⟨m.toList, entries, congrArg Except.ok (of_list_to_list m)⟩

theorem required_cons {A : Type} (name query : String) (value : Json F) (rest : List (String × Json F))
    (item : Json F → Except String A) :
    required ((name, value) :: rest) query item = if name = query then item value else required rest query item := by
  by_cases same : name = query <;> simp [required, field, same]

theorem optional_cons {A : Type} (name query : String) (value : Json F) (rest : List (String × Json F)) (default : A)
    (item : Json F → Except String A) :
    optional ((name, value) :: rest) query default item =
      if name = query then item value else optional rest query default item := by
  by_cases same : name = query <;> simp [optional, field, same]

theorem read_write_info (info : NodeInfo) : readInfo (writeInfo info : Json F) = .ok info := by
  simp [readInfo, writeInfo, required_cons, optional_cons, ok_bind, readString, read_write_u64, read_write_u32,
    read_write_role, read_write_map, pure, Except.pure]

theorem read_write_memory (memory : MemoryMetrics) : readMemory (writeMemory memory : Json F) = .ok memory := by
  simp [readMemory, writeMemory, required_cons, read_write_u64, ok_bind, pure, Except.pure]

theorem read_write_network (network : NetworkMetrics) : readNetwork (writeNetwork network : Json F) = .ok network := by
  simp [readNetwork, writeNetwork, required_cons, read_write_u64, ok_bind, pure, Except.pure]

theorem read_write_filesystem (fs : FilesystemMetrics) : readFilesystem (writeFilesystem fs : Json F) = .ok fs := by
  simp [readFilesystem, writeFilesystem, required_cons, readString, readBool, read_write_u64, ok_bind, pure, Except.pure]

theorem read_write_outcome (outcome : CommandOutcome) : readOutcome (writeOutcome outcome : Json F) = .ok outcome := by
  simp [readOutcome, writeOutcome, required_cons, readString, readBool, read_write_i32, read_write_u64, ok_bind, pure,
    Except.pure]

theorem read_array_map {A B : Type} (item : Json F → Except String A) (write : B → Json F) (xs : List B) :
    readArray item (.array (xs.map write)) = xs.mapM (fun x => item (write x)) := by
  rw [readArray, List.mapM_map]
  rfl

variable [F64 F] (serde : SerdeF64 F)

theorem read_write_cpu (cpu : CpuMetrics F) : readCpu serde (writeCpu serde cpu) = cpu.traverse serde.reread := by
  simp [readCpu, writeCpu, required_cons, optional_cons, read_array_map, CpuMetrics.traverse, SerdeF64.reread]
  rfl

theorem read_write_load (load : LoadMetrics F) : readLoad serde (writeLoad serde load) = load.traverse serde.reread := by
  simp [readLoad, writeLoad, required_cons, LoadMetrics.traverse, SerdeF64.reread]

theorem read_write_disk (disk : DiskMetrics F) : readDisk serde (writeDisk serde disk) = disk.traverse serde.reread := by
  simp [readDisk, writeDisk, required_cons, DiskMetrics.traverse, SerdeF64.reread, readString, read_write_u64, ok_bind]

theorem read_write_report (report : MetricsReport F) :
    readReport serde (writeReport serde report) = report.traverse serde.reread := by
  have filesystems : report.filesystems.mapM (fun fs => readFilesystem (writeFilesystem fs : Json F)) =
      .ok report.filesystems := by
    simpa using mapM_of_eq _ id report.filesystems fun fs _ => read_write_filesystem (F := F) fs
  simp [readReport, writeReport, required_cons, optional_cons, MetricsReport.traverse, readString, read_write_u64,
    read_write_cpu, read_write_load, read_write_memory, read_write_network, read_array_map, read_write_disk,
    filesystems, ok_bind]
  rfl

theorem read_write_latest (report : MetricsReport F) :
    readLatest serde (writeReport serde report) = (report.traverse serde.reread).map some := by
  have object : readLatest serde (writeReport serde report) = (readReport serde (writeReport serde report)).map some := by
    simp [readLatest, writeReport]
  rw [object, read_write_report]

theorem read_write_record (record : NodeRecord F) :
    readRecord serde (writeRecord serde record) = record.traverse serde.reread := by
  cases latest : record.latestMetrics with
  | none =>
      simp [readRecord, writeRecord, required_cons, optional_cons, read_write_info, read_write_status, read_write_u64,
        latest, readLatest, ok_bind, NodeRecord.traverse, pure, Except.pure]
  | some report =>
      simp [readRecord, writeRecord, required_cons, optional_cons, read_write_info, read_write_status, read_write_u64,
        latest, read_write_latest, ok_bind, NodeRecord.traverse]
      cases report.traverse serde.reread <;> rfl

theorem reread_succeeds_iff (x : F) : (∃ y, serde.reread x = .ok y) ↔ F64.isFinite x = true := by
  apply Iff.intro
  · rintro ⟨y, found⟩
    by_contra other
    obtain ⟨message, failed⟩ := serde.read_null
    rw [SerdeF64.reread, serde.write_other x (by simpa using other), failed] at found
    cases found
  · intro finite
    obtain ⟨token, written, y, found⟩ := serde.write_finite x finite
    exact ⟨y, by rw [SerdeF64.reread, written, found]⟩

end RoundTrip

end Hpc.Core
