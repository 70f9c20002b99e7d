import Hpc.Diag.Proc

set_option autoImplicit false

namespace Hpc.Diag

open Hpc.Core

-- What a table promises of its rows: where the columns of a line are, which of them are numbers, and the counters that a
-- record keeps of those.
structure Table (A : Type) where
  columns : List Char → Option (List (List Char))
  width : Nat
  needed : List Nat
  counters : A → List UInt64

namespace Table

variable {A : Type} (table : Table A) (parse : String → List A) (read : List Char → Option A)

def Complete (line : List Char) : Prop :=
  ∃ f, table.columns line = some f ∧ ∀ index ∈ table.needed, (column f index).isSome

def Backed (record : A) (line : List Char) : Prop :=
  ∃ f, table.columns line = some f ∧ table.needed.map (column f) = (table.counters record).map some

-- Each record has the numbers of a line of the text, and a line without them gives no record.
def Faithful (text : String) : Prop :=
  (∀ record ∈ parse text, ∃ line ∈ lines text.toList, table.Backed record line) ∧
    ∀ line ∈ lines text.toList, ¬ table.Complete line → read line = none

def Wellformed (text : String) : Prop :=
  ∀ line ∈ lines text.toList, ∀ f, table.columns line = some f → table.width ≤ f.length → table.Complete line

structure Defaulting : Prop where
  rows : ∀ text : String, parse text = (lines text.toList).filterMap read
  short : ∀ line, (∀ f, table.columns line = some f → f.length < table.width) → read line = none
  long : ∀ line f, table.columns line = some f → table.width ≤ f.length → ∃ record, read line = some record ∧
    table.counters record = table.needed.map fun index => (column f index).getD 0

variable {table parse read}

theorem defaulting_backed (defaulting : table.Defaulting parse read) (line : List Char) (record : A) (f : List (List Char))
    (cols : table.columns line = some f) (wide : table.width ≤ f.length) (made : read line = some record)
    (complete : ∀ index ∈ table.needed, (column f index).isSome) : table.Backed record line := by
  obtain ⟨same, again, counters⟩ := defaulting.long line f cols wide
  rw [made, Option.some.injEq] at again
  apply Exists.intro f
  apply And.intro cols
  rw [again, counters, List.map_map]
  apply List.map_congr_left
  intro index member
  obtain ⟨value, number⟩ := Option.isSome_iff_exists.mp (complete index member)
  rw [Function.comp_apply, number, Option.getD_some]

theorem faithful_iff (defaulting : table.Defaulting parse read) (text : String) :
    table.Faithful parse read text ↔ table.Wellformed text := by
  apply Iff.intro
  · intro faithful line member f cols wide
    apply Classical.byContradiction
    intro incomplete
    obtain ⟨record, made, _⟩ := defaulting.long line f cols wide
    rw [faithful.2 line member incomplete] at made
    cases made
  · intro wellformed
    apply And.intro
    · intro record member
      rw [defaulting.rows] at member
      obtain ⟨line, here, made⟩ := List.mem_filterMap.mp member
      apply Exists.intro line
      apply And.intro here
      by_cases wide : ∃ f, table.columns line = some f ∧ table.width ≤ f.length
      · obtain ⟨f, cols, long⟩ := wide
        obtain ⟨g, again, complete⟩ := wellformed line here f cols long
        rw [cols, Option.some.injEq] at again
        rw [← again] at complete
        exact defaulting_backed defaulting line record f cols long made complete
      · rw [defaulting.short line fun f cols => Nat.lt_of_not_le fun long => wide ⟨f, cols, long⟩] at made
        cases made
    · intro line here incomplete
      apply defaulting.short
      intro f cols
      apply Nat.lt_of_not_le
      intro long
      exact incomplete (wellformed line here f cols long)

end Table

def DiskStat.counters (disk : DiskStat) : List UInt64 :=
  [disk.readsCompleted, disk.sectorsRead, disk.writesCompleted, disk.sectorsWritten]

def NetDev.counters (net : NetDev) : List UInt64 := [net.rxBytes, net.rxErrs, net.txBytes, net.txErrs]

def diskTable : Table DiskStat := ⟨fun line => some (words isWhiteSpace line), 10, [3, 5, 7, 9], DiskStat.counters⟩

def netTable : Table NetDev :=
  ⟨fun line => (splitOnce ':' line).map fun parts => words isWhiteSpace parts.2, 11, [0, 2, 8, 10], NetDev.counters⟩

theorem disk_defaulting : diskTable.Defaulting parseDiskstats diskStat where
  rows := fun _ => rfl
  short := fun line narrow => if_pos (narrow _ rfl)
  long := by
    intro line f cols wide
    have same : words isWhiteSpace line = f := Option.some.inj cols
    apply Exists.intro _
    apply And.intro
    · simp only [diskStat, same]
      exact if_neg (Nat.not_lt_of_le wide)
    · rfl

theorem net_defaulting : netTable.Defaulting parseNetDev netDev where
  rows := fun _ => rfl
  short := by
    intro line narrow
    rw [netDev]
    cases split : splitOnce ':' line with
    | none => rfl
    | some parts =>
        have cols : netTable.columns line = some (words isWhiteSpace parts.2) := by
          change (splitOnce ':' line).map _ = _
          rw [split]
          rfl
        exact if_pos (narrow _ cols)
  long := by
    intro line f cols wide
    obtain ⟨parts, split, same⟩ := Option.map_eq_some_iff.mp cols
    apply Exists.intro _
    apply And.intro
    · simp only [netDev, split, same]
      exact if_neg (Nat.not_lt_of_le wide)
    · rfl

-- Both readers are faithful to just the texts whose long lines are in order.
theorem proc_rows_faithful_iff (text : String) :
    (diskTable.Faithful parseDiskstats diskStat text ↔ diskTable.Wellformed text) ∧
      (netTable.Faithful parseNetDev netDev text ↔ netTable.Wellformed text) :=
  ⟨Table.faithful_iff disk_defaulting text, Table.faithful_iff net_defaulting text⟩

-- A row whose last number is broken is read as a row of zero sectors written.
def brokenText : String := "8 0 sda 100 0 2000 30 200 0 oops\n"

theorem broken_row_fabricated :
    parseDiskstats brokenText = [⟨"sda", 100, 2000, 200, 0⟩] ∧
      ¬ ∀ text, diskTable.Faithful parseDiskstats diskStat text ∧ netTable.Faithful parseNetDev netDev text := by
  have parsed : parseDiskstats brokenText = [⟨"sda", 100, 2000, 200, 0⟩] := by decide +kernel
  have cut : lines brokenText.toList = ["8 0 sda 100 0 2000 30 200 0 oops".toList] := by decide +kernel
  apply And.intro parsed
  intro faithful
  have listed : (⟨"sda", 100, 2000, 200, 0⟩ : DiskStat) ∈ parseDiskstats brokenText := by
    rw [parsed]
    exact List.mem_cons_self
  obtain ⟨line, member, f, cols, backed⟩ := (faithful brokenText).1.1 _ listed
  rw [cut, List.mem_singleton] at member
  have same : words isWhiteSpace line = f := Option.some.inj cols
  have broken : column (words isWhiteSpace "8 0 sda 100 0 2000 30 200 0 oops".toList) 9 = none := by decide +kernel
  have last := congrArg (fun columns : List (Option UInt64) => columns[3]?) backed
  rw [← same, member] at last
  change some (column _ 9) = some (some 0) at last
  rw [broken] at last
  cases last

end Hpc.Diag
