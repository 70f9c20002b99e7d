import Hpc.Diag.Proc

set_option autoImplicit false

namespace Hpc.Diag

open Hpc.Core

-- A text of one entry a line: rows, in the layout of the kernel, and lines that are passed over. A last entry of no
-- characters is the line feed at the end of a file.
inductive Entry (Row : Type) (Noise : List Char → Prop) where
  | row (content : Row)
  | noise (line : List Char) (unbroken : '\n' ∉ line) (noise : Noise line)

section Texts

variable {Row A : Type} {Noise : List Char → Prop}

def Entry.chars (write : Row → List Char) : Entry Row Noise → List Char
  | .row content => write content
  | .noise line _ _ => line

def Entry.row? : Entry Row Noise → Option Row
  | .row content => some content
  | .noise _ _ _ => none

def rowsOf (entries : List (Entry Row Noise)) : List Row := entries.filterMap Entry.row?

def render (write : Row → List Char) (entries : List (Entry Row Noise)) : String :=
  String.ofList (List.intercalate ['\n'] (entries.map (Entry.chars write)))

theorem read_render (write : Row → List Char) (read : List Char → Option A) (value : Row → A) (empty : read [] = none)
    (stripped : ∀ line, read (stripReturn line) = read line) (unbroken : ∀ row, '\n' ∉ write row)
    (rows : ∀ row, read (write row) = some (value row)) (noise : ∀ line, Noise line → read line = none)
    (entries : List (Entry Row Noise)) :
    (lines (render write entries).toList).filterMap read = (rowsOf entries).map value := by
  have unbrokenLines : ∀ line ∈ entries.map (Entry.chars write), '\n' ∉ line := by
    intro line member
    obtain ⟨entry, _, rfl⟩ := List.mem_map.mp member
    cases entry with
    | row row => exact unbroken row
    | noise line unbroken _ => exact unbroken
  rw [render, String.toList_ofList, lines_intercalate read empty stripped _ unbrokenLines, List.filterMap_map, rowsOf,
    List.map_filterMap]
  apply List.filterMap_congr
  intro entry _
  cases entry with
  | row row => exact rows row
  | noise line _ passed => exact noise line passed

end Texts

structure Label where
  lead : Blanks isWhiteSpace
  word : Word isWhiteSpace
  unseparated : ':' ∉ word.chars
  spacing : Spacing isWhiteSpace

namespace Label

variable (label : Label) (columns : List (Word isWhiteSpace))

def name : String := String.ofList label.word.chars

def write : List Char := label.lead.chars ++ label.word.chars ++ ':' :: label.spacing.write columns

theorem split_once_write :
    splitOnce ':' (label.write columns) = some (label.lead.chars ++ label.word.chars, label.spacing.write columns) := by
  apply split_once_first
  intro member
  cases List.mem_append.mp member with
  | inl lead => cases label.lead.blanks ':' lead
  | inr inside => exact label.unseparated inside

theorem trim_label : String.ofList (trim isWhiteSpace (label.lead.chars ++ label.word.chars)) = label.name := by
  rw [trim_solid _ _ label.lead.blanks label.word.solid]
  rfl

theorem unbroken : '\n' ∉ label.write columns := by
  simp [write, label.lead.unbroken, word_unbroken newline_blank, write_unbroken newline_blank]

end Label

structure DiskLine where
  spacing : Spacing isWhiteSpace
  major : Word isWhiteSpace
  minor : Word isWhiteSpace
  device : Word isWhiteSpace
  readsCompleted : UInt64
  readsMerged : Word isWhiteSpace
  sectorsRead : UInt64
  timeReading : Word isWhiteSpace
  writesCompleted : UInt64
  writesMerged : Word isWhiteSpace
  sectorsWritten : UInt64
  extra : List (Word isWhiteSpace)

structure NetLine where
  label : Label
  rxBytes : UInt64
  rxPackets : Word isWhiteSpace
  rxErrs : UInt64
  rxDrop : Word isWhiteSpace
  rxFifo : Word isWhiteSpace
  rxFrame : Word isWhiteSpace
  rxCompressed : Word isWhiteSpace
  rxMulticast : Word isWhiteSpace
  txBytes : UInt64
  txPackets : Word isWhiteSpace
  txErrs : UInt64
  extra : List (Word isWhiteSpace)

structure MemLine where
  label : Label
  value : UInt64
  unit : List (Word isWhiteSpace)

namespace DiskLine

variable (line : DiskLine)

def columns : List (Word isWhiteSpace) :=
  [line.major, line.minor, line.device, .ofU64 line.readsCompleted, line.readsMerged, .ofU64 line.sectorsRead,
    line.timeReading, .ofU64 line.writesCompleted, line.writesMerged, .ofU64 line.sectorsWritten] ++ line.extra

def write : List Char := line.spacing.write line.columns

def record : DiskStat :=
  ⟨String.ofList line.device.chars, line.readsCompleted, line.sectorsRead, line.writesCompleted, line.sectorsWritten⟩

end DiskLine

namespace NetLine

variable (line : NetLine)

def columns : List (Word isWhiteSpace) :=
  [.ofU64 line.rxBytes, line.rxPackets, .ofU64 line.rxErrs, line.rxDrop, line.rxFifo, line.rxFrame, line.rxCompressed,
    line.rxMulticast, .ofU64 line.txBytes, line.txPackets, .ofU64 line.txErrs] ++ line.extra

def write : List Char := line.label.write line.columns

def record : NetDev := ⟨line.label.name, line.rxBytes, line.rxErrs, line.txBytes, line.txErrs⟩

end NetLine

def MemLine.write (line : MemLine) : List Char := line.label.write (.ofU64 line.value :: line.unit)

def DiskNoise (line : List Char) : Prop := (words isWhiteSpace line).length < 10

def NetNoise (line : List Char) : Prop :=
  ∀ head rest, splitOnce ':' line = some (head, rest) → (words isWhiteSpace rest).length < 11

def MemNoise (line : List Char) : Prop := ':' ∉ line

section Columns

theorem column_number (columns : List (Word isWhiteSpace)) (index : Nat) (value : UInt64)
    (here : columns[index]? = some (.ofU64 value)) : (column (columns.map Word.chars) index).getD 0 = value := by
  rw [column, List.getElem?_map, here]
  change (parseU64 (digits value)).getD 0 = value
  rw [parse_digits, Option.getD_some]

theorem disk_stat_strip (line : List Char) : diskStat (stripReturn line) = diskStat line := by
  rw [diskStat, diskStat, words_strip_return]

theorem disk_stat_write (line : DiskLine) : diskStat line.write = some line.record := by
  have columns : words isWhiteSpace line.write = line.columns.map Word.chars := words_write _ _
  have enough : ¬ (line.columns.map Word.chars).length < 10 := by simp [DiskLine.columns]
  simp only [diskStat, columns]
  rw [if_neg enough, column_number _ 3 line.readsCompleted rfl, column_number _ 5 line.sectorsRead rfl,
    column_number _ 7 line.writesCompleted rfl, column_number _ 9 line.sectorsWritten rfl]
  rfl

theorem disk_noise (line : List Char) (noise : DiskNoise line) : diskStat line = none := if_pos noise

theorem net_dev_eq (line : List Char) :
    netDev line = ((splitOnce ':' line).map fun parts => (parts.1, words isWhiteSpace parts.2)).bind fun parts =>
      if parts.2.length < 11 then none
      else some ⟨String.ofList (trim isWhiteSpace parts.1), (column parts.2 0).getD 0, (column parts.2 2).getD 0,
        (column parts.2 8).getD 0, (column parts.2 10).getD 0⟩ := by
  rw [netDev]
  cases splitOnce ':' line <;> rfl

theorem net_dev_strip (line : List Char) : netDev (stripReturn line) = netDev line := by
  rw [net_dev_eq, net_dev_eq, split_once_strip_return]

theorem net_dev_write (line : NetLine) : netDev line.write = some line.record := by
  have columns : words isWhiteSpace (line.label.spacing.write line.columns) = line.columns.map Word.chars := words_write _ _
  have enough : ¬ (line.columns.map Word.chars).length < 11 := by simp [NetLine.columns]
  simp only [netDev, NetLine.write, Label.split_once_write, columns]
  rw [if_neg enough, line.label.trim_label, column_number _ 0 line.rxBytes rfl, column_number _ 2 line.rxErrs rfl,
    column_number _ 8 line.txBytes rfl, column_number _ 10 line.txErrs rfl]
  rfl

theorem net_noise (line : List Char) (noise : NetNoise line) : netDev line = none := by
  rw [netDev]
  cases split : splitOnce ':' line with
  | none => rfl
  | some parts => exact if_pos (noise parts.1 parts.2 split)

theorem mem_line_strip (line : List Char) : memLine (stripReturn line) = memLine line := by
  have words := congrArg (Option.map fun parts : List Char × List (List Char) =>
    (String.ofList (trim isWhiteSpace parts.1), parts.2.head?.bind parseU64)) (split_once_strip_return line)
  rw [Option.map_map, Option.map_map] at words
  exact words

theorem mem_line_write (line : MemLine) : memLine line.write = some (line.label.name, some line.value) := by
  rw [memLine, MemLine.write, Label.split_once_write, Option.map_some, line.label.trim_label, words_write, List.map_cons,
    List.head?_cons]
  change some (_, parseU64 (digits line.value)) = _
  rw [parse_digits]

theorem mem_noise (line : List Char) (noise : MemNoise line) : memLine line = none := by
  rw [memLine, split_once_absent ':' line noise, Option.map_none]

end Columns

section Inversion

theorem meminfo_rows_render (entries : List (Entry MemLine MemNoise)) :
    meminfoRows (render MemLine.write entries) = (rowsOf entries).map fun line => (line.label.name, some line.value) :=
  read_render MemLine.write memLine _ rfl mem_line_strip (fun line => line.label.unbroken _) mem_line_write mem_noise entries

theorem parse_meminfo_listed (entries : List (Entry MemLine MemNoise))
    (distinct : ((rowsOf entries).map fun line => line.label.name).Nodup) (known : MemKey) (line : MemLine)
    (member : line ∈ rowsOf entries) (named : line.label.name = known.name) :
    (parseMeminfo (render MemLine.write entries)).get known = line.value := by
  have keys : ((meminfoRows (render MemLine.write entries)).map Prod.fst).Nodup := by
    rw [meminfo_rows_render, List.map_map]
    exact distinct
  have listed : (known.name, some line.value) ∈ meminfoRows (render MemLine.write entries) := by
    rw [meminfo_rows_render, ← named]
    exact List.mem_map_of_mem member
  rw [meminfo_get, last_row_unique _ _ _ keys listed]
  rfl

theorem parse_meminfo_unlisted (entries : List (Entry MemLine MemNoise)) (known : MemKey)
    (unlisted : ∀ line ∈ rowsOf entries, line.label.name ≠ known.name) :
    (parseMeminfo (render MemLine.write entries)).get known = 0 := by
  have absent : ∀ row ∈ meminfoRows (render MemLine.write entries), row.1 ≠ known.name := by
    rw [meminfo_rows_render]
    intro row member
    obtain ⟨line, here, rfl⟩ := List.mem_map.mp member
    exact unlisted line here
  rw [meminfo_get, last_row_none _ _ absent]
  rfl

theorem parse_meminfo_shuffled (entries shuffled : List (Entry MemLine MemNoise))
    (distinct : ((rowsOf entries).map fun line => line.label.name).Nodup)
    (same : (rowsOf shuffled).Perm (rowsOf entries)) :
    parseMeminfo (render MemLine.write shuffled) = parseMeminfo (render MemLine.write entries) := by
  have again : ((rowsOf shuffled).map fun line => line.label.name).Nodup := (same.map _).nodup_iff.mpr distinct
  apply mem_info_ext
  intro known
  by_cases listed : ∃ line ∈ rowsOf entries, line.label.name = known.name
  · obtain ⟨line, member, named⟩ := listed
    rw [parse_meminfo_listed entries distinct known line member named,
      parse_meminfo_listed shuffled again known line (same.mem_iff.mpr member) named]
  · have unlisted : ∀ line ∈ rowsOf entries, line.label.name ≠ known.name :=
      fun line member named => listed ⟨line, member, named⟩
    rw [parse_meminfo_unlisted entries known unlisted,
      parse_meminfo_unlisted shuffled known fun line member => unlisted line (same.mem_iff.mp member)]

-- The readers give back what the kernel wrote, whatever lines stand between the rows.
theorem proc_readers_invert_layout :
    (∀ entries : List (Entry DiskLine DiskNoise),
      parseDiskstats (render DiskLine.write entries) = (rowsOf entries).map DiskLine.record) ∧
    (∀ entries : List (Entry NetLine NetNoise),
      parseNetDev (render NetLine.write entries) = (rowsOf entries).map NetLine.record) ∧
    ∀ entries : List (Entry MemLine MemNoise), ((rowsOf entries).map fun line => line.label.name).Nodup →
      (∀ known : MemKey,
        (∀ line ∈ rowsOf entries, line.label.name = known.name →
          (parseMeminfo (render MemLine.write entries)).get known = line.value) ∧
        ((∀ line ∈ rowsOf entries, line.label.name ≠ known.name) →
          (parseMeminfo (render MemLine.write entries)).get known = 0)) ∧
      ∀ shuffled : List (Entry MemLine MemNoise), (rowsOf shuffled).Perm (rowsOf entries) →
        parseMeminfo (render MemLine.write shuffled) = parseMeminfo (render MemLine.write entries) := by
  apply And.intro
  · intro entries
    exact read_render DiskLine.write diskStat DiskLine.record rfl disk_stat_strip
      (fun line => write_unbroken newline_blank line.spacing line.columns) disk_stat_write disk_noise entries
  · apply And.intro
    · intro entries
      exact read_render NetLine.write netDev NetLine.record rfl net_dev_strip (fun line => line.label.unbroken _) net_dev_write
        net_noise entries
    · intro entries distinct
      apply And.intro
      · intro known
        exact ⟨parse_meminfo_listed entries distinct known, parse_meminfo_unlisted entries known⟩
      · intro shuffled same
        exact parse_meminfo_shuffled entries shuffled distinct same

def kilobytes : Word isWhiteSpace := ⟨['k', 'B'], by simp, all_solid _ rfl⟩

def labelled (name : List Char) (nonempty : name ≠ []) (solid : (name.all fun c => !isWhiteSpace c) = true)
    (unseparated : ':' ∉ name) : Label :=
  ⟨.none, ⟨name, nonempty, all_solid name solid⟩, unseparated, .single⟩

def sampleMemory : List (Entry MemLine MemNoise) :=
  [.row ⟨labelled "MemTotal".toList (by decide) rfl (by decide), 16333764, [kilobytes]⟩,
    .noise "no separator here".toList (by decide) (by decide : ':' ∉ "no separator here".toList),
    .row ⟨labelled "AnonHugePages".toList (by decide) rfl (by decide), 4096, [kilobytes]⟩,
    .row ⟨labelled "MemAvailable".toList (by decide) rfl (by decide), 8123456, []⟩]

def sampleDisks : List (Entry DiskLine DiskNoise) :=
  [.noise "8 16 sdb 1 0 8".toList (by decide) (by decide : (words isWhiteSpace "8 16 sdb 1 0 8".toList).length < 10),
    .row ⟨.single, .ofU64 8, .ofU64 0, ⟨"sda".toList, by decide, all_solid _ rfl⟩, 100, .ofU64 0, 2000, .ofU64 30, 200, .ofU64 0,
      4000, [.ofU64 9]⟩]

def sampleInterfaces : List (Entry NetLine NetNoise) :=
  [.noise "Inter-|   Receive".toList (by decide) (by intro head rest split; cases split),
    .row ⟨labelled "eth0".toList (by decide) rfl (by decide), 1000, .ofU64 9, 1, .ofU64 0, .ofU64 0, .ofU64 0, .ofU64 0, .ofU64 0,
      2000, .ofU64 8, 2, []⟩]

theorem sample_memory_distinct : ((rowsOf sampleMemory).map fun line => line.label.name).Nodup := by decide

theorem proc_readers_invert_samples :
    parseDiskstats (render DiskLine.write sampleDisks) = [⟨"sda", 100, 2000, 200, 4000⟩] ∧
      parseNetDev (render NetLine.write sampleInterfaces) = [⟨"eth0", 1000, 1, 2000, 2⟩] ∧
      (parseMeminfo (render MemLine.write sampleMemory)).get .memTotal = 16333764 ∧
      (parseMeminfo (render MemLine.write sampleMemory)).get .memAvailable = 8123456 ∧
      (parseMeminfo (render MemLine.write sampleMemory)).get .swapTotal = 0 := by
  obtain ⟨disks, interfaces, memory⟩ := proc_readers_invert_layout
  have inverts := (memory sampleMemory sample_memory_distinct).1
  refine ⟨(disks sampleDisks).trans rfl, (interfaces sampleInterfaces).trans rfl, ?_, ?_, ?_⟩
  · exact (inverts .memTotal).1 _ (List.mem_cons_self ..) rfl
  · exact (inverts .memAvailable).1 _ (List.mem_cons_of_mem _ (List.mem_cons_of_mem _ (List.mem_cons_self ..))) rfl
  · apply (inverts .swapTotal).2
    decide

end Inversion

end Hpc.Diag
