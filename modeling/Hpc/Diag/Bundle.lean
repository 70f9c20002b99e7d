import Hpc.Core.Error
import Hpc.Core.Json
import Hpc.Diag.Report

set_option autoImplicit false

namespace Hpc.Diag

open Hpc.Core Hpc.Lib

structure DiagReport where
  source : String
  severity : Severity
  kind : String
  message : String
  context : StrMap String
  capturedAtUnix : UInt64

def DiagReport.new (source : String) (severity : Severity) (kind message : String) (now : UInt64) : DiagReport :=
  ⟨source, severity, kind, message, ∅, now⟩

def DiagReport.warning (source kind message : String) (now : UInt64) : DiagReport := .new source .warning kind message now

def DiagReport.withContext (report : DiagReport) (key value : String) : DiagReport :=
  { report with context := report.context.insert key value }

structure HostInfo where
  hostname : String
  os : String
  arch : String
deriving DecidableEq, Repr

structure DiagnosticBundle where
  schemaVersion : UInt32
  generatedAtUnix : UInt64
  host : HostInfo
  platform : PlatformInfo
  memory : Option MemInfo
  disks : List DiskStat
  network : List NetDev
  reports : List DiagReport
  anomalies : List Anomaly

def DiagnosticBundle.currentSchema : UInt32 := 1

section Collection

-- The files a bundle is collected from, in the order they are read.
inductive Source where
  | meminfo
  | diskstats
  | netDev
  | mounts
  | version
deriving DecidableEq, Repr

def Source.path : Source → String
  | .meminfo => "/proc/meminfo"
  | .diskstats => "/proc/diskstats"
  | .netDev => "/proc/net/dev"
  | .mounts => "/proc/mounts"
  | .version => "/proc/version"

def Source.all : List Source := [.meminfo, .diskstats, .netDev, .mounts, .version]

-- What a collection meets: each file or the text of its I/O error, and the clock as each note and the bundle are made.
structure Host where
  read : Source → Except String String
  clock : Source → UInt64
  now : UInt64
  hostnameFile : Option String
  hostnameVar : Option String
  os : String
  arch : String

def readProc (host : Host) (source : Source) : Except HpcError String :=
  (host.read source).mapError (.io (some source.path))

def collectMeminfo (host : Host) : Except HpcError MemInfo := (readProc host .meminfo).map parseMeminfo
def collectDiskstats (host : Host) : Except HpcError (List DiskStat) := (readProc host .diskstats).map parseDiskstats
def collectNetDev (host : Host) : Except HpcError (List NetDev) := (readProc host .netDev).map parseNetDev
def collectMounts (host : Host) : Except HpcError (List MountEntry) := (readProc host .mounts).map parseMounts
def collectKernel (host : Host) : Except HpcError KernelInfo := (readProc host .version).map parseVersion

def HostInfo.collect (host : Host) : HostInfo :=
  let trimmed := host.hostnameFile.map fun text => String.ofList (trim isWhiteSpace text.toList)
  let named := (trimmed.filter fun text => text ≠ "").or host.hostnameVar
  ⟨named.getD "unknown", host.os, host.arch⟩

def unavailable (now : UInt64) (source : String) (err : HpcError) : DiagReport :=
  (DiagReport.warning "hpc-diag" "collector_unavailable" ("could not read " ++ source ++ ": " ++ err.display) now).withContext
    "source" source

def gather {A : Type} (host : Host) (source : Source) (missing : A) (collected : Except HpcError A)
    (reports : List DiagReport) : A × List DiagReport :=
  match collected with
  | .ok found => (found, reports)
  | .error e => (missing, reports ++ [unavailable (host.clock source) source.path e])

def collectWithReports (F : Type) [F64Text F] (host : Host) (reports : List DiagReport) : DiagnosticBundle :=
  let (memory, reports) := gather host .meminfo none ((collectMeminfo host).map some) reports
  let (disks, reports) := gather host .diskstats [] (collectDiskstats host) reports
  let (network, reports) := gather host .netDev [] (collectNetDev host) reports
  let (mounts, reports) := gather host .mounts [] (collectMounts host) reports
  let (kernel, reports) := gather host .version ⟨"", ""⟩ (collectKernel host) reports
  let filesystems := (Std.ExtTreeSet.ofList (mounts.map MountEntry.fsType)).toList
  let platform : PlatformInfo := ⟨kernel, filesystems, mounts⟩
  let anomalies := detectAnomalies F memory platform
  ⟨DiagnosticBundle.currentSchema, host.now, HostInfo.collect host, platform, memory, disks, network, reports, anomalies⟩

def collect (F : Type) [F64Text F] (host : Host) : DiagnosticBundle := collectWithReports F host []

end Collection

section Documents

variable {F : Type}

def writeSeverity : Severity → Json F
  | .info => .string "info"
  | .warning => .string "warning"
  | .error => .string "error"
  | .fatal => .string "fatal"

def readSeverity : Json F → Except String Severity
  | .string "info" => .ok .info
  | .string "warning" => .ok .warning
  | .string "error" => .ok .error
  | .string "fatal" => .ok .fatal
  | _ => .error "unknown variant, expected a severity"

def writeMemInfo (m : MemInfo) : Json F :=
  .object [("mem_total_kb", writeU64 m.memTotalKb), ("mem_free_kb", writeU64 m.memFreeKb),
    ("mem_available_kb", writeU64 m.memAvailableKb), ("buffers_kb", writeU64 m.buffersKb),
    ("cached_kb", writeU64 m.cachedKb), ("swap_total_kb", writeU64 m.swapTotalKb), ("swap_free_kb", writeU64 m.swapFreeKb)]

def readMemInfo : Json F → Except String MemInfo
  | .object fields => do
      let memTotalKb ← required fields "mem_total_kb" readU64
      let memFreeKb ← required fields "mem_free_kb" readU64
      let memAvailableKb ← required fields "mem_available_kb" readU64
      let buffersKb ← required fields "buffers_kb" readU64
      let cachedKb ← required fields "cached_kb" readU64
      let swapTotalKb ← required fields "swap_total_kb" readU64
      let swapFreeKb ← required fields "swap_free_kb" readU64
      return ⟨memTotalKb, memFreeKb, memAvailableKb, buffersKb, cachedKb, swapTotalKb, swapFreeKb⟩
  | _ => .error "invalid type, expected struct MemInfo"

def readMemInfoOption : Json F → Except String (Option MemInfo)
  | .null => .ok none
  | value => (readMemInfo value).map some

def writeDiskStat (d : DiskStat) : Json F :=
  .object [("device", .string d.device), ("reads_completed", writeU64 d.readsCompleted),
    ("sectors_read", writeU64 d.sectorsRead), ("writes_completed", writeU64 d.writesCompleted),
    ("sectors_written", writeU64 d.sectorsWritten)]

def readDiskStat : Json F → Except String DiskStat
  | .object fields => do
      let device ← required fields "device" readString
      let readsCompleted ← required fields "reads_completed" readU64
      let sectorsRead ← required fields "sectors_read" readU64
      let writesCompleted ← required fields "writes_completed" readU64
      let sectorsWritten ← required fields "sectors_written" readU64
      return ⟨device, readsCompleted, sectorsRead, writesCompleted, sectorsWritten⟩
  | _ => .error "invalid type, expected struct DiskStat"

def writeNetDev (n : NetDev) : Json F :=
  .object [("interface", .string n.interface), ("rx_bytes", writeU64 n.rxBytes), ("rx_errs", writeU64 n.rxErrs),
    ("tx_bytes", writeU64 n.txBytes), ("tx_errs", writeU64 n.txErrs)]

def readNetDev : Json F → Except String NetDev
  | .object fields => do
      let interface ← required fields "interface" readString
      let rxBytes ← required fields "rx_bytes" readU64
      let rxErrs ← required fields "rx_errs" readU64
      let txBytes ← required fields "tx_bytes" readU64
      let txErrs ← required fields "tx_errs" readU64
      return ⟨interface, rxBytes, rxErrs, txBytes, txErrs⟩
  | _ => .error "invalid type, expected struct NetDev"

def writeMountEntry (m : MountEntry) : Json F :=
  .object [("device", .string m.device), ("mount_point", .string m.mountPoint), ("fs_type", .string m.fsType),
    ("options", .array (m.options.map .string))]

def readMountEntry : Json F → Except String MountEntry
  | .object fields => do
      let device ← required fields "device" readString
      let mountPoint ← required fields "mount_point" readString
      let fsType ← required fields "fs_type" readString
      let options ← required fields "options" (readArray readString)
      return ⟨device, mountPoint, fsType, options⟩
  | _ => .error "invalid type, expected struct MountEntry"

def writeKernel (kernel : KernelInfo) : Json F := .object [("raw", .string kernel.raw), ("release", .string kernel.release)]

def readKernel : Json F → Except String KernelInfo
  | .object fields => do
      let raw ← required fields "raw" readString
      let release ← required fields "release" readString
      return ⟨raw, release⟩
  | _ => .error "invalid type, expected struct KernelInfo"

def writePlatform (platform : PlatformInfo) : Json F :=
  .object [("kernel", writeKernel platform.kernel), ("filesystems", .array (platform.filesystems.map .string)),
    ("mounts", .array (platform.mounts.map writeMountEntry))]

def readPlatform : Json F → Except String PlatformInfo
  | .object fields => do
      let kernel ← required fields "kernel" readKernel
      let filesystems ← required fields "filesystems" (readArray readString)
      let mounts ← required fields "mounts" (readArray readMountEntry)
      return ⟨kernel, filesystems, mounts⟩
  | _ => .error "invalid type, expected struct PlatformInfo"

def writeHost (host : HostInfo) : Json F :=
  .object [("hostname", .string host.hostname), ("os", .string host.os), ("arch", .string host.arch)]

def readHost : Json F → Except String HostInfo
  | .object fields => do
      let hostname ← required fields "hostname" readString
      let os ← required fields "os" readString
      let arch ← required fields "arch" readString
      return ⟨hostname, os, arch⟩
  | _ => .error "invalid type, expected struct HostInfo"

-- An empty context is left out.
def writeDiagReport (report : DiagReport) : Json F :=
  .object ([("source", .string report.source), ("severity", writeSeverity report.severity), ("kind", .string report.kind),
    ("message", .string report.message)] ++
      (if report.context.isEmpty then [] else [("context", writeMap report.context)]) ++
        [("captured_at_unix", writeU64 report.capturedAtUnix)])

def readDiagReport : Json F → Except String DiagReport
  | .object fields => do
      let source ← required fields "source" readString
      let severity ← required fields "severity" readSeverity
      let kind ← required fields "kind" readString
      let message ← required fields "message" readString
      let context ← optional fields "context" ∅ readMap
      let capturedAtUnix ← required fields "captured_at_unix" readU64
      return ⟨source, severity, kind, message, context, capturedAtUnix⟩
  | _ => .error "invalid type, expected struct DiagReport"

def writeAnomaly (anomaly : Anomaly) : Json F :=
  .object [("severity", writeSeverity anomaly.severity), ("category", .string anomaly.category),
    ("detail", .string anomaly.detail)]

def readAnomaly : Json F → Except String Anomaly
  | .object fields => do
      let severity ← required fields "severity" readSeverity
      let category ← required fields "category" readString
      let detail ← required fields "detail" readString
      return ⟨severity, category, detail⟩
  | _ => .error "invalid type, expected struct Anomaly"

def writeBundle (bundle : DiagnosticBundle) : Json F :=
  .object [("schema_version", writeU32 bundle.schemaVersion), ("generated_at_unix", writeU64 bundle.generatedAtUnix),
    ("host", writeHost bundle.host), ("platform", writePlatform bundle.platform),
    ("memory", bundle.memory.elim .null writeMemInfo), ("disks", .array (bundle.disks.map writeDiskStat)),
    ("network", .array (bundle.network.map writeNetDev)), ("reports", .array (bundle.reports.map writeDiagReport)),
    ("anomalies", .array (bundle.anomalies.map writeAnomaly))]

def readBundle : Json F → Except String DiagnosticBundle
  | .object fields => do
      let schemaVersion ← required fields "schema_version" readU32
      let generatedAtUnix ← required fields "generated_at_unix" readU64
      let host ← required fields "host" readHost
      let platform ← required fields "platform" readPlatform
      let memory ← optional fields "memory" none readMemInfoOption
      let disks ← required fields "disks" (readArray readDiskStat)
      let network ← required fields "network" (readArray readNetDev)
      let reports ← optional fields "reports" [] (readArray readDiagReport)
      let anomalies ← required fields "anomalies" (readArray readAnomaly)
      return ⟨schemaVersion, generatedAtUnix, host, platform, memory, disks, network, reports, anomalies⟩
  | _ => .error "invalid type, expected struct DiagnosticBundle"

end Documents

section RoundTrip

variable {F : Type}

theorem read_write_array {A : Type} (read : Json F → Except String A) (write : A → Json F) (xs : List A)
    (same : ∀ x, read (write x) = .ok x) : readArray read (.array (xs.map write)) = .ok xs := by
  rw [read_array_map]
  simpa using mapM_of_eq (fun x => read (write x)) id xs fun x _ => same x

theorem read_write_strings (xs : List String) : readArray readString (.array (xs.map Json.string) : Json F) = .ok xs :=
  read_write_array readString .string xs fun _ => rfl

theorem read_write_severity (severity : Severity) : readSeverity (writeSeverity severity : Json F) = .ok severity := by
  cases severity <;> rfl

theorem read_write_mem_info (m : MemInfo) : readMemInfo (writeMemInfo m : Json F) = .ok m := by
  simp [readMemInfo, writeMemInfo, required_cons, read_write_u64, ok_bind, pure, Except.pure]

theorem read_write_mem_info_option (memory : Option MemInfo) :
    readMemInfoOption (memory.elim .null writeMemInfo : Json F) = .ok memory := by
  cases memory with
  | none => rfl
  | some m =>
      have object : readMemInfoOption (writeMemInfo m : Json F) = (readMemInfo (writeMemInfo m : Json F)).map some := rfl
      rw [Option.elim_some, object, read_write_mem_info]
      rfl

theorem read_write_disk_stat (d : DiskStat) : readDiskStat (writeDiskStat d : Json F) = .ok d := by
  simp [readDiskStat, writeDiskStat, required_cons, readString, read_write_u64, ok_bind, pure, Except.pure]

theorem read_write_net_dev (n : NetDev) : readNetDev (writeNetDev n : Json F) = .ok n := by
  simp [readNetDev, writeNetDev, required_cons, readString, read_write_u64, ok_bind, pure, Except.pure]

theorem read_write_mount_entry (m : MountEntry) : readMountEntry (writeMountEntry m : Json F) = .ok m := by
  simp [readMountEntry, writeMountEntry, required_cons, readString, read_write_strings, ok_bind, pure, Except.pure]

theorem read_write_kernel (kernel : KernelInfo) : readKernel (writeKernel kernel : Json F) = .ok kernel := by
  simp [readKernel, writeKernel, required_cons, readString, ok_bind, pure, Except.pure]

theorem read_write_platform (platform : PlatformInfo) : readPlatform (writePlatform platform : Json F) = .ok platform := by
  have mounts := read_write_array (F := F) readMountEntry writeMountEntry platform.mounts read_write_mount_entry
  simp [readPlatform, writePlatform, required_cons, read_write_kernel, read_write_strings, mounts, ok_bind, pure, Except.pure]

theorem read_write_host (host : HostInfo) : readHost (writeHost host : Json F) = .ok host := by
  simp [readHost, writeHost, required_cons, readString, ok_bind, pure, Except.pure]

theorem read_write_diag_report (report : DiagReport) : readDiagReport (writeDiagReport report : Json F) = .ok report := by
  cases empty : report.context.isEmpty with
  | true =>
      have none : (∅ : StrMap String) = report.context := (Std.ExtTreeMap.isEmpty_iff.mp empty).symm
      simp [readDiagReport, writeDiagReport, empty, required_cons, Core.optional, Core.field, readString,
        read_write_severity, read_write_u64, ok_bind, pure, Except.pure, none]
  | false =>
      simp [readDiagReport, writeDiagReport, empty, required_cons, optional_cons, readString, read_write_severity,
        read_write_map, read_write_u64, ok_bind, pure, Except.pure]

theorem read_write_anomaly (anomaly : Anomaly) : readAnomaly (writeAnomaly anomaly : Json F) = .ok anomaly := by
  simp [readAnomaly, writeAnomaly, required_cons, readString, read_write_severity, ok_bind, pure, Except.pure]

theorem read_write_bundle (bundle : DiagnosticBundle) : readBundle (writeBundle bundle : Json F) = .ok bundle := by
  have disks := read_write_array (F := F) readDiskStat writeDiskStat bundle.disks read_write_disk_stat
  have network := read_write_array (F := F) readNetDev writeNetDev bundle.network read_write_net_dev
  have reports := read_write_array (F := F) readDiagReport writeDiagReport bundle.reports read_write_diag_report
  have anomalies := read_write_array (F := F) readAnomaly writeAnomaly bundle.anomalies read_write_anomaly
  simp [readBundle, writeBundle, required_cons, optional_cons, read_write_u32, read_write_u64, read_write_host,
    read_write_platform, read_write_mem_info_option, disks, network, reports, anomalies, ok_bind, pure, Except.pure]

end RoundTrip

section Accounts

inductive Section where
  | memory (memory : Option MemInfo)
  | disks (disks : List DiskStat)
  | network (network : List NetDev)
  | mounts (mounts : List MountEntry)
  | kernel (kernel : KernelInfo)
deriving DecidableEq, Repr

def Source.parse (source : Source) (text : String) : Section :=
  match source with
  | .meminfo => .memory (some (parseMeminfo text))
  | .diskstats => .disks (parseDiskstats text)
  | .netDev => .network (parseNetDev text)
  | .mounts => .mounts (parseMounts text)
  | .version => .kernel (parseVersion text)

def DiagnosticBundle.holds (bundle : DiagnosticBundle) : Source → Section
  | .meminfo => .memory bundle.memory
  | .diskstats => .disks bundle.disks
  | .netDev => .network bundle.network
  | .mounts => .mounts bundle.platform.mounts
  | .version => .kernel bundle.platform.kernel

def DiagReport.isNote (report : DiagReport) : Bool := report.source = "hpc-diag" ∧ report.kind = "collector_unavailable"

def DiagReport.noteOn (source : Source) (report : DiagReport) : Bool :=
  report.isNote ∧ report.context["source"]? = some source.path

-- What a reader of a bundle takes it to say of a source: why it could not be read, or what it held.
def DiagnosticBundle.account (bundle : DiagnosticBundle) (source : Source) : Except String Section :=
  match bundle.reports.find? (DiagReport.noteOn source) with
  | some note => .error note.message
  | none => .ok (bundle.holds source)

def note (host : Host) (source : Source) : Option DiagReport :=
  match readProc host source with
  | .ok _ => none
  | .error e => some (unavailable (host.clock source) source.path e)

theorem gather_spec {A : Type} (host : Host) (source : Source) (missing : A) (parse : String → A)
    (reports : List DiagReport) :
    gather host source missing ((readProc host source).map parse) reports =
      (((host.read source).toOption.map parse).getD missing, reports ++ (note host source).toList) := by
  cases read : host.read source with
  | ok text => simp [gather, note, readProc, read, Except.map, Except.mapError, Except.toOption]
  | error e => simp [gather, note, readProc, read, Except.map, Except.mapError, Except.toOption]

theorem gather_memory (host : Host) (reports : List DiagReport) :
    gather host .meminfo none ((collectMeminfo host).map some) reports =
      ((host.read .meminfo).toOption.map parseMeminfo, reports ++ (note host .meminfo).toList) := by
  cases read : host.read .meminfo with
  | ok text => simp [gather, collectMeminfo, note, readProc, read, Except.map, Except.mapError, Except.toOption]
  | error e => simp [gather, collectMeminfo, note, readProc, read, Except.map, Except.mapError, Except.toOption]

def Source.absent : Source → Section
  | .meminfo => .memory none
  | .diskstats => .disks []
  | .netDev => .network []
  | .mounts => .mounts []
  | .version => .kernel ⟨"", ""⟩

theorem collect_holds (F : Type) [F64Text F] (host : Host) (contributed : List DiagReport) (source : Source) :
    (collectWithReports F host contributed).holds source =
      ((host.read source).toOption.map source.parse).getD source.absent := by
  simp only [collectWithReports, gather_memory, collectDiskstats, collectNetDev, collectMounts, collectKernel, gather_spec]
  cases source <;> simp only [DiagnosticBundle.holds, Source.absent] <;> cases host.read _ <;> rfl

theorem collect_reports (F : Type) [F64Text F] (host : Host) (contributed : List DiagReport) :
    (collectWithReports F host contributed).reports = contributed ++ Source.all.filterMap (note host) := by
  simp only [collectWithReports, gather_memory, collectDiskstats, collectNetDev, collectMounts, collectKernel, gather_spec]
  simp [List.filterMap_eq_flatMap_toList, Source.all]

theorem filesystems_ascending (types : List String) :
    (Std.ExtTreeSet.ofList types).toList.Pairwise (· < ·) ∧
      ∀ fsType, fsType ∈ (Std.ExtTreeSet.ofList types).toList ↔ fsType ∈ types := by
  apply And.intro
  · exact Std.ExtTreeSet.ordered_toList.imp fun before => compare_lt_iff_lt.mp before
  · intro fsType
    rw [Std.ExtTreeSet.mem_toList, Std.ExtTreeSet.mem_ofList, List.contains_iff_mem]

theorem unavailable_note_on (now : UInt64) (source other : Source) (e : HpcError) :
    (unavailable now other.path e).noteOn source = decide (other = source) := by
  cases source <;> cases other <;> simp [unavailable, DiagReport.noteOn, DiagReport.isNote, DiagReport.withContext,
    DiagReport.warning, DiagReport.new, Source.path]

theorem find_note (host : Host) (source : Source) :
    (Source.all.filterMap (note host)).find? (DiagReport.noteOn source) = note host source := by
  have own : (fun other => (note host other).any (DiagReport.noteOn source)) =
      fun other => decide (other = source) && (note host source).isSome := by
    funext other
    cases read : host.read other with
    | ok text =>
      by_cases same : other = source
      · subst same
        simp [note, readProc, read, Except.mapError]
      · simp [note, readProc, read, Except.mapError, same]
    | error e =>
      by_cases same : other = source
      · subst same
        simp [note, readProc, read, Except.mapError, unavailable_note_on]
      · simp [note, readProc, read, Except.mapError, unavailable_note_on, same]
  rw [List.find?_filterMap, own]
  cases found : note host source with
  | none => cases source <;> simp [Source.all]
  | some report => cases source <;> simp [Source.all, found]

theorem collect_account (F : Type) [F64Text F] (host : Host) (contributed : List DiagReport)
    (foreign : ∀ report ∈ contributed, report.isNote = false) (source : Source) :
    (collectWithReports F host contributed).account source =
      match host.read source with
      | .ok text => .ok (source.parse text)
      | .error e => .error ("could not read " ++ source.path ++ ": " ++ (HpcError.io (some source.path) e).display) := by
  have others : contributed.find? (DiagReport.noteOn source) = none := by
    rw [List.find?_eq_none]
    intro report member
    simp [DiagReport.noteOn, foreign report member]
  rw [DiagnosticBundle.account, collect_reports, List.find?_append, others, Option.none_or, find_note, collect_holds]
  cases read : host.read source with
  | ok text =>
      have silent : note host source = none := by simp [note, readProc, read, Except.mapError]
      rw [silent]
      rfl
  | error e =>
      have noted : note host source = some (unavailable (host.clock source) source.path (.io (some source.path) e)) := by
        simp [note, readProc, read, Except.mapError]
      rw [noted]
      rfl

-- The document a collection writes, read by another tool: it says of every source what could and could not be observed, and
-- its findings are those of what it shows.
theorem document_accounts (F : Type) [F64Text F] (host : Host) (contributed : List DiagReport)
    (foreign : ∀ report ∈ contributed, report.isNote = false) :
    ∃ bundle, readBundle (writeBundle (collectWithReports F host contributed) : Json F) = .ok bundle ∧
      (∀ source, bundle.account source =
        match host.read source with
        | .ok text => .ok (source.parse text)
        | .error e => .error ("could not read " ++ source.path ++ ": " ++ (HpcError.io (some source.path) e).display)) ∧
      bundle.platform.filesystems.Pairwise (· < ·) ∧
      (∀ fsType, fsType ∈ bundle.platform.filesystems ↔ ∃ m ∈ bundle.platform.mounts, m.fsType = fsType) ∧
      bundle.anomalies = detectAnomalies F bundle.memory bundle.platform ∧
      contributed <+: bundle.reports := by
  refine ⟨collectWithReports F host contributed, read_write_bundle _, collect_account F host contributed foreign, ?_⟩
  have ascending := filesystems_ascending ((collectWithReports F host contributed).platform.mounts.map MountEntry.fsType)
  refine ⟨ascending.1, fun fsType => ?_, rfl, ?_⟩
  · rw [← List.mem_map]
    exact ascending.2 fsType
  · rw [collect_reports]
    exact List.prefix_append _ _

def bareHost : Host := ⟨fun _ => .error "No such file or directory (os error 2)", fun _ => 0, 0, none, none, "macos", "aarch64"⟩

theorem bare_host_accounted :
    ∃ bundle, readBundle (writeBundle (collect ℚ bareHost) : Json ℚ) = .ok bundle ∧
      bundle.account .mounts =
        .error "could not read /proc/mounts: i/o error at /proc/mounts: No such file or directory (os error 2)" := by
  obtain ⟨bundle, read, accounts, -⟩ := document_accounts ℚ bareHost [] (by simp)
  exact ⟨bundle, read, accounts .mounts⟩

end Accounts

end Hpc.Diag
