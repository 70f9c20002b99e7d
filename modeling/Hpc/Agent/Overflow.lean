import Hpc.Agent.Traffic

set_option autoImplicit false

namespace Hpc.Agent

open Hpc.Core

def diskSectors (line : List Char) : Option (UInt64 × UInt64) :=
  let f := words isWhiteSpace line
  if f.length < 10 ∨ virtualDevice (f[2]?.getD []) then none
  else
    match f[5]?.bind parseU64, f[9]?.bind parseU64 with
    | some rdSectors, some wrSectors => some (rdSectors, wrSectors)
    | _, _ => none

theorem disk_row_bytes (line : List Char) :
    (diskRow line).map Prod.snd = (diskSectors line).map fun sectors => (sectors.1 * sectorBytes, sectors.2 * sectorBytes) := by
  rw [diskRow, diskSectors]
  by_cases short : (words isWhiteSpace line).length < 10
  · simp [short]
  · by_cases excluded : virtualDevice ((words isWhiteSpace line)[2]?.getD []) = true
    · simp [short, excluded]
    · have both : ¬ ((words isWhiteSpace line).length < 10 ∨ virtualDevice ((words isWhiteSpace line)[2]?.getD []) = true) :=
        fun either => either.elim short excluded
      simp only [if_neg short, if_neg excluded, if_neg both]
      cases (words isWhiteSpace line)[5]?.bind parseU64 with
      | none => rfl
      | some rdSectors =>
          cases (words isWhiteSpace line)[9]?.bind parseU64 with
          | none => rfl
          | some wrSectors => rfl

def DiskExact (disk : String) : Prop :=
  ∀ line ∈ lines disk.toList, ∀ rdSectors wrSectors, diskSectors line = some (rdSectors, wrSectors) →
    ∃ name rdBytes wrBytes, diskRow line = some (name, rdBytes, wrBytes) ∧ rdBytes.toNat = rdSectors.toNat * 512 ∧
      wrBytes.toNat = wrSectors.toNat * 512

def runningSums (net : String) (count : Nat) : NetCounters :=
  ((interfaces (some net)).take count).foldl (fun sums row => sums.add row.2) NetCounters.zero

def exactSum (net : String) (count : Nat) (column : Column) : Nat :=
  (((interfaces (some net)).take count).map fun row => (row.2.get column).toNat).sum

def exactTotal (net : String) (column : Column) : Nat :=
  ((interfaces (some net)).map fun row => (row.2.get column).toNat).sum

def SumsExact (net : String) : Prop :=
  (∀ column, ((readNetDev (some net)).get column).toNat = exactTotal net column) ∧
    ∀ count column, ((runningSums net count).get column).toNat = exactSum net count column

def SectorsFit (disk : String) : Prop :=
  ∀ line ∈ lines disk.toList, ∀ rdSectors wrSectors, diskSectors line = some (rdSectors, wrSectors) →
    rdSectors.toNat < 2 ^ 55 ∧ wrSectors.toNat < 2 ^ 55

def TotalsFit (net : String) : Prop := ∀ column, exactTotal net column < 2 ^ 64

theorem sector_bytes_exact_iff (sectors : UInt64) :
    (sectors * sectorBytes).toNat = sectors.toNat * 512 ↔ sectors.toNat < 2 ^ 55 := by
  have wrapped : (sectors * sectorBytes).toNat = sectors.toNat * 512 % 2 ^ 64 := UInt64.toNat_mul sectors sectorBytes
  rw [wrapped]
  omega

theorem disk_exact_iff (disk : String) : DiskExact disk ↔ SectorsFit disk := by
  apply forall₂_congr
  intro line member
  apply forall₂_congr
  intro rdSectors wrSectors
  apply forall_congr'
  intro counted
  have bytes := disk_row_bytes line
  rw [counted, Option.map_some] at bytes
  obtain ⟨row, made, product⟩ := Option.map_eq_some_iff.mp bytes
  rw [← sector_bytes_exact_iff, ← sector_bytes_exact_iff]
  apply Iff.intro
  · intro exactly
    obtain ⟨name, rdBytes, wrBytes, again, rd, wr⟩ := exactly
    rw [made, Option.some.injEq] at again
    rw [again] at product
    obtain ⟨sameRd, sameWr⟩ := Prod.mk.inj product
    rw [← sameRd, ← sameWr]
    exact ⟨rd, wr⟩
  · intro fits
    refine ⟨row.1, row.2.1, row.2.2, made, ?_, ?_⟩
    · rw [product]
      exact fits.1
    · rw [product]
      exact fits.2

theorem running_sums_get (net : String) (count : Nat) (column : Column) :
    ((runningSums net count).get column).toNat = exactSum net count column % 2 ^ 64 := by
  have zero : (NetCounters.zero.get column).toNat = 0 := by cases column <;> rfl
  rw [runningSums, fold_get, zero, Nat.zero_add, exactSum]

-- The sums only grow, so the last one bounds them all.
theorem exact_sum_le (net : String) (count : Nat) (column : Column) : exactSum net count column ≤ exactTotal net column := by
  have split := congrArg (fun rows : List (String × NetCounters) => (rows.map fun row => (row.2.get column).toNat).sum)
    (List.take_append_drop count (interfaces (some net)))
  rw [List.map_append, List.sum_append] at split
  rw [exactTotal, ← split, exactSum]
  exact Nat.le_add_right _ _

theorem sums_exact_iff (net : String) : SumsExact net ↔ TotalsFit net := by
  apply Iff.intro
  · intro exactly column
    rw [← exactly.1 column]
    exact UInt64.toNat_lt _
  · intro fits
    have running : ∀ count column, ((runningSums net count).get column).toNat = exactSum net count column := by
      intro count column
      rw [running_sums_get]
      exact Nat.mod_eq_of_lt (Nat.lt_of_le_of_lt (exact_sum_le net count column) (fits column))
    apply And.intro _ running
    intro column
    have last := running (interfaces (some net)).length column
    rw [runningSums, exactSum, List.take_length] at last
    exact last

theorem counters_exact_iff (disk net : String) : DiskExact disk ∧ SumsExact net ↔ SectorsFit disk ∧ TotalsFit net :=
  and_congr (disk_exact_iff disk) (sums_exact_iff net)

-- A driver counts 2 ^ 55 sectors read, and the bytes wrap to zero.
def bogusText : String := "8 0 sda 1 0 36028797018963968 0 0 0 0\n"

theorem bogus_sectors_wrap :
    (lines bogusText.toList).filterMap diskRow = [("sda", 0, 0)] ∧ ¬ ∀ disk net, DiskExact disk ∧ SumsExact net := by
  have read : (lines bogusText.toList).filterMap diskRow = [("sda", 0, 0)] := by decide +kernel
  have line : "8 0 sda 1 0 36028797018963968 0 0 0 0".toList ∈ lines bogusText.toList := by decide +kernel
  have sectors : diskSectors "8 0 sda 1 0 36028797018963968 0 0 0 0".toList = some (36028797018963968, 0) := by
    decide +kernel
  apply And.intro read
  intro exactly
  have fits := (disk_exact_iff bogusText).mp (exactly bogusText "").1 _ line _ _ sectors
  exact absurd fits.1 (by decide)

end Hpc.Agent
