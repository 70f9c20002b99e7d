import Mathlib.Tactic.NormNum
import Hpc.Diag.Report

set_option autoImplicit false

namespace Hpc.Diag

open Hpc.Core

theorem reported_iff (category : String) (anomalies : List Anomaly) :
    (∃ anomaly ∈ anomalies, anomaly.category = category) ↔ reported category anomalies ≠ [] := by
  rw [reported, Ne, List.filter_eq_nil_iff]
  simp

theorem singleton_if_iff (test : Prop) [Decidable test] (anomaly : Anomaly) :
    (if test then [anomaly] else []) ≠ [] ↔ test := by
  by_cases holds : test
  · simp [holds]
  · simp [holds]

section Memory

-- What a text says of a key: a text without the key and a text whose last line for it has no number both say nothing.
def observed (text : String) (known : MemKey) : Option UInt64 := (lastRow (meminfoRows text) known.name).join

theorem parse_meminfo_observed (text : String) (known : MemKey) :
    (parseMeminfo text).get known = (observed text known).getD 0 := by
  rw [meminfo_get, observed]
  cases lastRow (meminfoRows text) known.name with
  | none => rfl
  | some value => rfl

def LowMemory (text : String) : Prop :=
  ∃ t a, observed text .memTotal = some t ∧ 0 < t.toNat ∧ observed text .memAvailable = some a ∧ 10 * a.toNat < t.toNat

def MemoryBacked (text : String) (platform : PlatformInfo) : Prop :=
  let anomalies := detectAnomalies ℚ (some (parseMeminfo text)) platform
  ((∃ anomaly ∈ anomalies, anomaly.category = "memory_pressure") ↔ LowMemory text) ∧
    ((∃ anomaly ∈ anomalies, anomaly.category = "no_swap") ↔ observed text .swapTotal = some 0)

def Measured (text : String) : Prop :=
  ((∃ t, observed text .memTotal = some t ∧ 0 < t.toNat) → (observed text .memAvailable).isSome) ∧
    (observed text .swapTotal).isSome

theorem scarce_iff (mem : MemInfo) (positive : 0 < mem.memTotalKb.toNat) :
    scarce ℚ mem.availableFraction = true ↔ 10 * mem.memAvailableKb.toNat < mem.memTotalKb.toNat := by
  have nonzero : mem.memTotalKb ≠ 0 := by
    intro zero
    rw [zero] at positive
    exact Nat.lt_irrefl 0 positive
  have total : (0 : ℚ) < mem.memTotalKb.toNat := Nat.cast_pos.mpr positive
  have fraction : (mem.availableFraction : ℚ) = (mem.memAvailableKb.toNat : ℚ) / mem.memTotalKb.toNat := by
    rw [MemInfo.availableFraction, if_neg nonzero]
    rfl
  have limit : (F64.div (F64.ofU64 1) (F64.ofU64 10) : ℚ) = 1 / 10 := by
    change ((1 : Nat) : ℚ) / ((10 : Nat) : ℚ) = 1 / 10
    norm_num
  have strict : scarce ℚ mem.availableFraction = true ↔ (mem.availableFraction : ℚ) < 1 / 10 := by
    rw [scarce, limit]
    change (decide ((mem.availableFraction : ℚ) ≤ 1 / 10) && !decide (1 / 10 ≤ (mem.availableFraction : ℚ))) = true ↔ _
    rw [Bool.and_eq_true, Bool.not_eq_true', decide_eq_true_eq, decide_eq_false_iff_not, not_le]
    exact ⟨fun both => both.2, fun less => ⟨le_of_lt less, less⟩⟩
  rw [strict, fraction, div_lt_div_iff₀ total (by norm_num), one_mul, mul_comm]
  exact_mod_cast Iff.rfl

theorem reported_detect_memory (category : String) (mem : MemInfo) (platform : PlatformInfo)
    (apart : category ∉ ["old_kernel", "heterogeneous_filesystems", "ephemeral_state_dir", "root_read_only"]) :
    reported category (detectAnomalies ℚ (some mem) platform) = reported category (memoryAnomalies ℚ mem) := by
  simp only [List.mem_cons, List.not_mem_nil, or_false, not_or] at apart
  obtain ⟨kernel, filesystems, ephemeral, root⟩ := apart
  rw [detectAnomalies, reported_append, reported_append, reported_append, reported_kernel _ _ kernel,
    reported_filesystems _ _ filesystems, reported_mounts _ _ ephemeral root, List.append_nil, List.append_nil,
    List.append_nil, Option.elim_some]

theorem pressure_reported_iff (mem : MemInfo) (platform : PlatformInfo) :
    (∃ anomaly ∈ detectAnomalies ℚ (some mem) platform, anomaly.category = "memory_pressure") ↔
      0 < mem.memTotalKb.toNat ∧ 10 * mem.memAvailableKb.toNat < mem.memTotalKb.toNat := by
  rw [reported_iff, reported_detect_memory _ mem platform (by simp), memoryAnomalies,
    reported_append, reported_if_same "memory_pressure" _ (pressureAnomaly ℚ mem.availableFraction) rfl,
    reported_if_other "memory_pressure" _ noSwapAnomaly (by simp [noSwapAnomaly]), List.append_nil, singleton_if_iff]
  exact and_congr_right fun positive => scarce_iff mem positive

theorem no_swap_reported_iff (mem : MemInfo) (platform : PlatformInfo) :
    (∃ anomaly ∈ detectAnomalies ℚ (some mem) platform, anomaly.category = "no_swap") ↔ mem.swapTotalKb = 0 := by
  have other : (pressureAnomaly ℚ mem.availableFraction).category ≠ "no_swap" := by simp [pressureAnomaly]
  rw [reported_iff, reported_detect_memory _ mem platform (by simp), memoryAnomalies,
    reported_append, reported_if_other "no_swap" _ _ other, reported_if_same "no_swap" _ noSwapAnomaly rfl,
    List.nil_append, singleton_if_iff]

-- A key that was not measured is taken for zero: no memory available, and no swap.
theorem memory_anomalies_backed_iff (text : String) (platform : PlatformInfo) :
    MemoryBacked text platform ↔ Measured text := by
  have total := parse_meminfo_observed text .memTotal
  have available := parse_meminfo_observed text .memAvailable
  have swap := parse_meminfo_observed text .swapTotal
  change (parseMeminfo text).memTotalKb = _ at total
  change (parseMeminfo text).memAvailableKb = _ at available
  change (parseMeminfo text).swapTotalKb = _ at swap
  rw [MemoryBacked, pressure_reported_iff, no_swap_reported_iff, total, available, swap, Measured, LowMemory]
  apply and_congr
  · cases observed text .memTotal with
    | none => simp
    | some t =>
        cases observed text .memAvailable with
        | none => simp
        | some a => simp
  · cases observed text .swapTotal with
    | none => simp
    | some value => simp

-- A kernel without MemAvailable, and nine tenths of its memory free: it is reported to be out of memory.
def oldMeminfo : String := "MemTotal: 1000 kB\nMemFree: 900 kB\nSwapTotal: 0 kB\n"

theorem old_meminfo_rows :
    meminfoRows oldMeminfo = [("MemTotal", some 1000), ("MemFree", some 900), ("SwapTotal", some 0)] := by decide +kernel

theorem old_meminfo_reports_pressure :
    (∃ anomaly ∈ detectAnomalies ℚ (some (parseMeminfo oldMeminfo)) ⟨⟨"", ""⟩, [], []⟩, anomaly.category = "memory_pressure") ∧
      ¬ LowMemory oldMeminfo ∧ ¬ ∀ text platform, MemoryBacked text platform := by
  have raised : ∃ anomaly ∈ detectAnomalies ℚ (some (parseMeminfo oldMeminfo)) ⟨⟨"", ""⟩, [], []⟩,
      anomaly.category = "memory_pressure" := by
    rw [pressure_reported_iff, parseMeminfo, old_meminfo_rows]
    decide
  have unmeasured : observed oldMeminfo .memAvailable = none := by
    rw [observed, old_meminfo_rows]
    decide
  have silent : ¬ LowMemory oldMeminfo := by
    intro low
    obtain ⟨t, a, _, _, measured, _⟩ := low
    rw [unmeasured] at measured
    cases measured
  apply And.intro raised
  apply And.intro silent
  intro backed
  exact silent ((backed oldMeminfo ⟨⟨"", ""⟩, [], []⟩).1.mp raised)

end Memory

section Mounts

variable (F : Type) [F64Text F] (memory : Option MemInfo) (platform : PlatformInfo)

def UnderVar (m : MountEntry) : Prop := m.mountPoint = "/var" ∨ startsWith "/var/" m.mountPoint = true

instance (m : MountEntry) : Decidable (UnderVar m) := inferInstanceAs (Decidable (_ ∨ _))

def Volatile (m : MountEntry) : Prop := ephemeralFs.contains m.fsType = true ∧ UnderVar m

instance (m : MountEntry) : Decidable (Volatile m) := inferInstanceAs (Decidable (_ ∧ _))

-- Of several mounts on one path the last covers the others.
def rootMount (mounts : List MountEntry) : Option MountEntry := (mounts.filter fun m => m.mountPoint = "/").getLast?

def RootReadOnly (mounts : List MountEntry) : Prop := ∃ m, rootMount mounts = some m ∧ "ro" ∈ m.options

def MountsExact : Prop :=
  let anomalies := detectAnomalies F memory platform
  reported "ephemeral_state_dir" anomalies = (platform.mounts.filter fun m => Volatile m).map ephemeralAnomaly ∧
    ((∃ anomaly ∈ anomalies, anomaly.category = "root_read_only") ↔ RootReadOnly platform.mounts)

-- No ephemeral mount has a name that only starts like /var, and a read-only root is not covered by a writable one.
def Distinguished (mounts : List MountEntry) : Prop :=
  (∀ m ∈ mounts, ephemeralFs.contains m.fsType = true → startsWith "/var" m.mountPoint = true → UnderVar m) ∧
    ((∃ m ∈ mounts, m.mountPoint = "/" ∧ "ro" ∈ m.options) → RootReadOnly mounts)

theorem starts_with_iff (start text : String) : startsWith start text = true ↔ start.toList <+: text.toList := by
  rw [startsWith, List.isPrefixOf_iff_prefix]

theorem under_var_starts (m : MountEntry) (under : UnderVar m) : startsWith "/var" m.mountPoint = true := by
  rw [starts_with_iff]
  cases under with
  | inl same => exact ⟨[], by rw [same, List.append_nil]⟩
  | inr below =>
      have longer : "/var".toList <+: "/var/".toList := ⟨['/'], rfl⟩
      exact longer.trans ((starts_with_iff _ _).mp below)

theorem reported_detect_mounts (category : String)
    (apart : category ∉ ["old_kernel", "heterogeneous_filesystems", "memory_pressure", "no_swap"]) :
    reported category (detectAnomalies F memory platform) =
      platform.mounts.flatMap fun m => reported category (mountAnomalies m) := by
  simp only [List.mem_cons, List.not_mem_nil, or_false, not_or] at apart
  obtain ⟨kernel, filesystems, pressure, swap⟩ := apart
  have quiet : reported category (memory.elim [] (memoryAnomalies F)) = [] := by
    cases memory with
    | none => rfl
    | some mem => exact reported_memory category mem pressure swap
  rw [detectAnomalies, reported_append, reported_append, reported_append, reported_kernel _ _ kernel,
    reported_filesystems _ _ filesystems, quiet, reported_flat_map]
  rfl

theorem ephemeral_reported :
    reported "ephemeral_state_dir" (detectAnomalies F memory platform) =
      (platform.mounts.filter fun m => ephemeralFs.contains m.fsType && startsWith "/var" m.mountPoint).map
        ephemeralAnomaly := by
  rw [reported_detect_mounts F memory platform _ (by simp)]
  induction platform.mounts with
  | nil => rfl
  | cons m rest ih =>
      rw [List.flatMap_cons, ih, mountAnomalies, reported_append,
        reported_if_same "ephemeral_state_dir" _ (ephemeralAnomaly m) rfl,
        reported_if_other "ephemeral_state_dir" _ rootReadOnlyAnomaly (by simp [rootReadOnlyAnomaly]), List.append_nil]
      by_cases both : ephemeralFs.contains m.fsType = true ∧ startsWith "/var" m.mountPoint = true
      · rw [if_pos both, List.filter_cons_of_pos (by simpa using both)]
        rfl
      · rw [if_neg both, List.filter_cons_of_neg (by simpa using both)]
        rfl

theorem root_reported_iff :
    (∃ anomaly ∈ detectAnomalies F memory platform, anomaly.category = "root_read_only") ↔
      ∃ m ∈ platform.mounts, m.mountPoint = "/" ∧ "ro" ∈ m.options := by
  rw [reported_iff, reported_detect_mounts F memory platform _ (by simp), Ne,
    List.flatMap_eq_nil_iff]
  have each : ∀ m : MountEntry, reported "root_read_only" (mountAnomalies m) = [] ↔
      ¬ (m.mountPoint = "/" ∧ "ro" ∈ m.options) := by
    intro m
    have other : (ephemeralAnomaly m).category ≠ "root_read_only" := by simp [ephemeralAnomaly]
    rw [mountAnomalies, reported_append, reported_if_other "root_read_only" _ (ephemeralAnomaly m) other,
      reported_if_same "root_read_only" _ rootReadOnlyAnomaly rfl, List.nil_append]
    exact not_iff_not.mp (by rw [not_not]; exact singleton_if_iff _ rootReadOnlyAnomaly)
  simp only [each, not_forall, not_not, exists_prop]

theorem filter_map_eq_iff {A B : Type} (change : A → B) (wide narrow : A → Bool) (rows : List A)
    (within : ∀ row, narrow row = true → wide row = true) :
    (rows.filter wide).map change = (rows.filter narrow).map change ↔ ∀ row ∈ rows, wide row = true → narrow row = true := by
  have again : (rows.filter wide).filter narrow = rows.filter narrow := by
    rw [List.filter_filter]
    apply List.filter_congr
    intro row _
    by_cases kept : narrow row = true
    · simp [kept, within row kept]
    · simp [kept]
  apply Iff.intro
  · intro same row member accepted
    have lengths := congrArg List.length same
    rw [List.length_map, List.length_map, ← again] at lengths
    exact List.length_filter_eq_length_iff.mp lengths.symm row (List.mem_filter.mpr ⟨member, accepted⟩)
  · intro all
    apply congrArg (List.map change)
    apply List.filter_congr
    intro row member
    by_cases accepted : wide row = true
    · rw [accepted, all row member accepted]
    · have dropped : ¬ narrow row = true := fun kept => accepted (within row kept)
      rw [eq_false_of_ne_true accepted, eq_false_of_ne_true dropped]

-- A root entry with the option is on the table, so a last one without it is what makes the report wrong.
theorem root_read_only_listed (mounts : List MountEntry) (readOnly : RootReadOnly mounts) :
    ∃ m ∈ mounts, m.mountPoint = "/" ∧ "ro" ∈ m.options := by
  obtain ⟨m, last, option⟩ := readOnly
  have member := List.mem_filter.mp (List.mem_of_getLast? last)
  exact ⟨m, member.1, by simpa using member.2, option⟩

theorem mount_anomalies_exact_iff : MountsExact F memory platform ↔ Distinguished platform.mounts := by
  rw [MountsExact, ephemeral_reported, root_reported_iff, Distinguished]
  apply and_congr
  · rw [filter_map_eq_iff]
    · apply forall₂_congr
      intro m _
      rw [Bool.and_eq_true, and_imp, decide_eq_true_eq]
      exact forall₂_congr fun volatile _ => and_iff_right volatile
    · intro m volatile
      have both : Volatile m := by simpa using volatile
      rw [both.1, under_var_starts m both.2]
      rfl
  · apply Iff.intro
    · intro exactly
      exact exactly.mp
    · intro covered
      exact ⟨covered, root_read_only_listed platform.mounts⟩

end Mounts

section Samples

def variableMount : MountEntry := ⟨"tmpfs", "/variable", "tmpfs", ["rw"]⟩

def coveredRoot : List MountEntry := [⟨"/dev/sr0", "/", "iso9660", ["ro"]⟩, ⟨"/dev/sda1", "/", "ext4", ["rw"]⟩]

-- A mount beside /var is taken for one below it, and a root that has been covered for the one in use.
theorem mount_anomalies_miss :
    ephemeralAnomaly variableMount ∈ detectAnomalies ℚ none ⟨⟨"", ""⟩, [], [variableMount]⟩ ∧ ¬ UnderVar variableMount ∧
      rootReadOnlyAnomaly ∈ detectAnomalies ℚ none ⟨⟨"", ""⟩, [], coveredRoot⟩ ∧ ¬ RootReadOnly coveredRoot ∧
      ¬ ∀ (memory : Option MemInfo) (platform : PlatformInfo), MountsExact ℚ memory platform := by
  have raised : ephemeralAnomaly variableMount ∈ detectAnomalies ℚ none ⟨⟨"", ""⟩, [], [variableMount]⟩ := by
    decide +kernel
  have beside : ¬ UnderVar variableMount := by decide
  have covered : ¬ RootReadOnly coveredRoot := by
    intro readOnly
    obtain ⟨m, last, option⟩ := readOnly
    have same : rootMount coveredRoot = some ⟨"/dev/sda1", "/", "ext4", ["rw"]⟩ := by simp [rootMount, coveredRoot]
    rw [same, Option.some.injEq] at last
    rw [← last] at option
    simp at option
  apply And.intro raised
  apply And.intro beside
  apply And.intro
  · decide +kernel
  · apply And.intro covered
    intro exactly
    have report := (exactly none ⟨⟨"", ""⟩, [], coveredRoot⟩).2.mp
      ((root_reported_iff ℚ none ⟨⟨"", ""⟩, [], coveredRoot⟩).mpr ⟨_, List.mem_cons_self, rfl, List.mem_cons_self⟩)
    exact covered report

end Samples

end Hpc.Diag
