import Hpc.Bench.Run
import Hpc.Lib.Tiling

set_option autoImplicit false

namespace Hpc.Bench

open Hpc.Core Hpc.Lib

section Geometry

-- The u64 arithmetic of the block offsets and of the total, without loss and within the file.
structure Exact (fileSize blockSize blocks : UInt64) : Prop where
  positive : 0 < blocks
  offset : ∀ index, index < blocks → (index * blockSize).toNat = index.toNat * blockSize.toNat ∧
    index.toNat * blockSize.toNat + blockSize.toNat ≤ fileSize.toNat
  total : (blocks * blockSize).toNat = blocks.toNat * blockSize.toNat
  total_le : blocks.toNat * blockSize.toNat ≤ fileSize.toNat

theorem max_to_nat (a b : UInt64) : (max a b).toNat = max a.toNat b.toNat := by
  rw [UInt64.max_def]
  by_cases ordered : a ≤ b
  · rw [if_pos ordered, Nat.max_eq_right (UInt64.le_iff_toNat_le.mp ordered)]
  · rw [if_neg ordered, Nat.max_eq_left]
    rw [UInt64.le_iff_toNat_le] at ordered
    exact Nat.le_of_lt (Nat.lt_of_not_le ordered)

theorem blocks_exact (fileSize blockSize : UInt64) (some_bytes : blockSize ≠ 0) (fits : ¬ fileSize < blockSize) :
    Exact fileSize blockSize (max (fileSize / blockSize) 1) := by
  have size : 0 < blockSize.toNat := UInt64.lt_iff_toNat_lt.mp (UInt64.pos_iff_ne_zero.mpr some_bytes)
  have most : blockSize.toNat ≤ fileSize.toNat := by
    rw [UInt64.lt_iff_toNat_lt] at fits
    omega
  have one : 1 ≤ fileSize.toNat / blockSize.toNat := (Nat.one_le_div_iff size).mpr most
  have count : (max (fileSize / blockSize) 1).toNat = fileSize.toNat / blockSize.toNat := by
    rw [max_to_nat, UInt64.toNat_div]
    exact Nat.max_eq_left one
  have total : (max (fileSize / blockSize) 1).toNat * blockSize.toNat ≤ fileSize.toNat := by
    rw [count]
    exact Nat.div_mul_le_self _ _
  have bound := fileSize.toNat_lt
  refine ⟨?_, ?_, ?_, total⟩
  · rw [UInt64.lt_iff_toNat_lt, count]
    exact one
  · intro index below
    rw [UInt64.lt_iff_toNat_lt] at below
    have next : (index.toNat + 1) * blockSize.toNat ≤ fileSize.toNat := Nat.le_trans (Nat.mul_le_mul_right _ below) total
    rw [Nat.succ_mul] at next
    refine ⟨?_, next⟩
    rw [UInt64.toNat_mul, Nat.mod_eq_of_lt (by omega)]
  · rw [UInt64.toNat_mul, Nat.mod_eq_of_lt (by omega)]

theorem valid_exact (opts : BenchOptions) (valid : opts.validate = .ok ()) :
    Exact opts.fileSize opts.blockSize opts.blocks := by
  rw [BenchOptions.validate] at valid
  obtain ⟨someBytes, rest⟩ := passed_test valid
  obtain ⟨fits, _⟩ := passed_test rest
  exact blocks_exact opts.fileSize opts.blockSize someBytes fits

end Geometry

section Preparation

variable (host : Host)

theorem step_contract (path : String) (effect : List UInt8 → List UInt8) (half : Fault → List UInt8 → List UInt8)
    (before after : Disk → Prop) (failed : Disk → Prop)
    (done : ∀ disk, before disk → after { disk with scratch := disk.scratch.map effect, steps := disk.steps + 1 })
    (undone : ∀ disk fault, before disk → failed { disk with scratch := disk.scratch.map (half fault), steps := disk.steps + 1 }) :
    Contract before (step host path effect half) (fun _ => after) fun _ => failed := by
  intro disk start
  cases outcome : host.fault disk.steps with
  | none =>
      rw [step, outcome]
      exact done disk start
  | some fault =>
      rw [step, outcome]
      exact undone disk fault start

theorem prepare_loop_contract (path : String) (position : Nat) (remaining : UInt64) (log : List Access) :
    Contract (fun disk => disk.scratch = some (List.replicate position 0) ∧ disk.log = log)
      (prepareLoop host path position remaining)
      (fun _ disk => disk.scratch = some (List.replicate (position + remaining.toNat) 0) ∧ disk.log = log)
      (fun _ disk => disk.log = log) := by
  induction size : remaining.toNat using Nat.strongRecOn generalizing position remaining with
  | ind total ih =>
      rw [prepareLoop]
      by_cases more : 0 < remaining
      · have left := chunk_subtracts remaining
        have chunk : (min remaining PREP_CHUNK).toNat = min remaining.toNat 1048576 := min_to_nat remaining PREP_CHUNK
        have later := ih _ (size ▸ remaining_shrinks remaining more) (position + (min remaining PREP_CHUNK).toNat)
          (remaining - min remaining PREP_CHUNK) rfl
        rw [if_pos more]
        apply contract_bind _ _ _ _ _ _ _ fun _ => ?_
        · exact fun _ disk => disk.scratch = some (List.replicate (position + (min remaining PREP_CHUNK).toNat) 0) ∧
            disk.log = log
        · apply step_contract
          · intro disk reached
            obtain ⟨prepared, same⟩ := reached
            refine ⟨?_, same⟩
            have seam := splice_seam (0 : UInt8) (List.replicate position 0) [] (List.replicate (min remaining PREP_CHUNK).toNat 0)
            rw [List.append_nil, List.length_replicate, List.drop_nil, List.append_nil, List.replicate_append_replicate] at seam
            rw [prepared, Option.map_some, seam]
          · exact fun disk fault before => before.2
        · refine contract_ends later ?_ (fun _ _ after => after)
          intro _ disk reached
          obtain ⟨prepared, same⟩ := reached
          refine ⟨?_, same⟩
          rw [prepared]
          congr 2
          omega
      · have none : total = 0 := by
          rw [UInt64.lt_iff_toNat_lt, UInt64.toNat_zero] at more
          omega
        rw [if_neg more, none]
        apply contract_pure
        exact fun disk before => before

theorem touch_keeps (path : String) (content : Option (List UInt8)) (log : List Access) :
    Contract (fun disk => disk.scratch = content ∧ disk.log = log) (touch host path)
      (fun _ disk => disk.scratch = content ∧ disk.log = log) (fun _ disk => disk.scratch = content ∧ disk.log = log) := by
  apply step_contract
  · intro disk reached
    obtain ⟨rfl, rfl⟩ := reached
    exact ⟨Option.map_id_apply, rfl⟩
  · intro disk fault reached
    obtain ⟨rfl, rfl⟩ := reached
    exact ⟨Option.map_id_apply, rfl⟩

theorem prepare_file_zeros (path : String) (size : UInt64) (log : List Access) :
    Contract (fun disk => disk.log = log) (prepareFile host path size)
      (fun _ disk => disk.scratch = some (List.replicate size.toNat 0) ∧ disk.log = log) (fun _ disk => disk.log = log) := by
  apply contract_bind _ _ _ (fun _ disk => disk.scratch = some (List.replicate 0 0) ∧ disk.log = log)
  · intro disk same
    cases outcome : host.fault disk.steps with
    | none =>
        rw [openTruncated, outcome]
        exact ⟨rfl, same⟩
    | some fault =>
        rw [openTruncated, outcome]
        exact same
  · intro _
    apply contract_bind _ _ _ _ _ _ (prepare_loop_contract host path 0 size log)
    intro _
    rw [Nat.zero_add]
    have kept := touch_keeps host path (some (List.replicate size.toNat 0)) log
    have logged := contract_fails kept fun _ _ after => after.2
    exact contract_bind _ _ _ _ _ _ logged fun _ => logged

end Preparation

section Scenarios

variable (host : Host) (opts : BenchOptions)

def Inside (offset : UInt64) : Prop := offset.toNat + opts.blockSize.toNat ≤ opts.fileSize.toNat

def entry (kind : AccessKind) (offset : UInt64) : Access := ⟨kind, offset, opts.blockSize.toNat, opts.fileSize.toNat⟩

def Ready (log : List Access) (disk : Disk) : Prop :=
  (∃ content, disk.scratch = some content ∧ content.length = opts.fileSize.toNat) ∧ disk.log = log

structure Visits (kind : AccessKind) (random : Bool) (log : List Access) (first count : Nat) (disk : Disk)
    (offsets : List UInt64) : Prop where
  size : offsets.length = count
  inside : ∀ offset ∈ offsets, Inside opts offset
  inTurn : random = false → offsets.map UInt64.toNat = (List.range count).map fun j => (first + j) * opts.blockSize.toNat
  logged : Ready opts (log ++ offsets.map (entry opts kind)) disk

theorem step_ready (path : String) (log : List Access) (effect : List UInt8 → List UInt8)
    (half : Fault → List UInt8 → List UInt8)
    (keeps : ∀ content, content.length = opts.fileSize.toNat → (effect content).length = opts.fileSize.toNat)
    (keeps_half : ∀ fault content, content.length = opts.fileSize.toNat → (half fault content).length = opts.fileSize.toNat) :
    Contract (Ready opts log) (step host path effect half) (fun _ => Ready opts log) fun _ => Ready opts log := by
  apply step_contract
  · intro disk reached
    obtain ⟨⟨content, present, size⟩, logged⟩ := reached
    refine ⟨⟨effect content, ?_, keeps content size⟩, logged⟩
    rw [present, Option.map_some]
  · intro disk fault reached
    obtain ⟨⟨content, present, size⟩, logged⟩ := reached
    refine ⟨⟨half fault content, ?_, keeps_half fault content size⟩, logged⟩
    rw [present, Option.map_some]

theorem touch_ready (path : String) (log : List Access) :
    Contract (Ready opts log) (touch host path) (fun _ => Ready opts log) fun _ => Ready opts log :=
  step_ready host opts path log _ _ (fun _ size => size) fun _ _ size => size

theorem write_all_ready (path : String) (log : List Access) (offset : UInt64) (block : List UInt8)
    (inside : Inside opts offset) (size : block.length = opts.blockSize.toNat) :
    Contract (Ready opts log) (writeAll host path offset.toNat block) (fun _ => Ready opts log) fun _ => Ready opts log := by
  rw [Inside, ← size] at inside
  apply step_ready
  · intro content full
    rw [splice_within 0 content offset.toNat block (full ▸ inside), full]
  · intro fault content full
    have shorter : (block.take fault.wrote).length ≤ block.length := by
      rw [List.length_take]
      exact Nat.min_le_right _ _
    rw [splice_within 0 content offset.toNat _ (by omega), full]

theorem issue_ready (kind : AccessKind) (log : List Access) (offset : UInt64) (failure : HpcError → Disk → Prop) :
    Contract (Ready opts log) (issue kind offset opts.blockSize.toNat)
      (fun _ => Ready opts (log ++ [entry opts kind offset])) failure := by
  intro disk reached
  obtain ⟨⟨content, present, size⟩, rfl⟩ := reached
  apply And.intro ⟨content, present, size⟩
  change disk.log ++ [⟨kind, offset, opts.blockSize.toNat, disk.scratch.elim 0 List.length⟩] = _
  rw [present, Option.elim_some, size]
  rfl

theorem write_block_ready (path : String) (log : List Access) (offset : UInt64) (inside : Inside opts offset) :
    Contract (Ready opts log) (writeBlock host path opts.fsync (fillBlock opts.blockSize.toNat) offset)
      (fun _ => Ready opts (log ++ [entry opts .write offset])) fun _ => Ready opts (log ++ [entry opts .write offset]) := by
  have size : (fillBlock opts.blockSize.toNat).length = opts.blockSize.toNat := by
    rw [fillBlock, List.length_map, List.length_range]
  rw [writeBlock, size]
  apply contract_bind _ _ _ _ _ _ (issue_ready opts .write log offset _)
  intro _
  apply contract_bind _ _ _ _ _ _ (write_all_ready host opts path _ offset _ inside size)
  intro _
  cases opts.fsync with
  | true => exact touch_ready host opts path _
  | false =>
      apply contract_pure
      exact fun _ ready => ready

-- The read finds the whole block, so the end of the file is never met.
theorem read_block_ready (path : String) (log : List Access) (offset : UInt64) (inside : Inside opts offset) :
    Contract (Ready opts log) (readBlock host path opts.blockSize.toNat offset)
      (fun _ => Ready opts (log ++ [entry opts .read offset])) fun _ => Ready opts (log ++ [entry opts .read offset]) := by
  apply contract_bind _ _ _ _ _ _ (issue_ready opts .read log offset _)
  intro _ disk reached
  obtain ⟨⟨content, present, size⟩, logged⟩ := reached
  have whole : ¬ disk.scratch.elim 0 List.length < offset.toNat + opts.blockSize.toNat := by
    rw [present, Option.elim_some, size]
    exact Nat.not_lt_of_le inside
  rw [readExact, if_neg whole]
  exact touch_ready host opts path _ disk ⟨⟨content, present, size⟩, logged⟩

theorem block_offset_ready (exact_sizes : Exact opts.fileSize opts.blockSize opts.blocks) (i : UInt64)
    (within : i < opts.blocks) (random : Bool) (log : List Access) (failure : HpcError → Disk → Prop) :
    Contract (Ready opts log) (blockOffset host i opts.blocks random opts.blockSize)
      (fun offset disk => Ready opts log disk ∧ Inside opts offset ∧
        (random = false → offset.toNat = i.toNat * opts.blockSize.toNat)) failure := by
  cases random with
  | false =>
      intro disk ready
      obtain ⟨product, inside⟩ := exact_sizes.offset i within
      exact ⟨ready, (product ▸ inside : (i * opts.blockSize).toNat + _ ≤ _), fun _ => product⟩
  | true =>
      intro disk ready
      obtain ⟨product, inside⟩ := exact_sizes.offset _ (host.draw_lt disk.draws opts.blocks exact_sizes.positive)
      exact ⟨ready, (product ▸ inside : (host.draw disk.draws opts.blocks * opts.blockSize).toNat + _ ≤ _),
        fun sequential => by cases sequential⟩

theorem visits_none (kind : AccessKind) (random : Bool) (log : List Access) (first : Nat) (disk : Disk)
    (ready : Ready opts log disk) : Visits opts kind random log first 0 disk [] :=
  { size := rfl
    inside := fun _ absent => by cases absent
    inTurn := fun _ => rfl
    logged := by simpa using ready }

theorem visits_cons (kind : AccessKind) (random : Bool) (log : List Access) (first count : Nat) (disk : Disk)
    (offset : UInt64) (offsets : List UInt64) (inside : Inside opts offset)
    (inTurn : random = false → offset.toNat = first * opts.blockSize.toNat)
    (rest : Visits opts kind random (log ++ [entry opts kind offset]) (first + 1) count disk offsets) :
    Visits opts kind random log first (count + 1) disk (offset :: offsets) := by
  refine ⟨congrArg (· + 1) rest.size, ?_, ?_, ?_⟩
  · intro other member
    rcases List.mem_cons.mp member with rfl | later
    · exact inside
    · exact rest.inside other later
  · intro sequential
    rw [List.map_cons, rest.inTurn sequential, inTurn sequential, List.range_succ_eq_map, List.map_cons, List.map_map]
    refine congrArg₂ List.cons rfl (List.map_congr_left fun j _ => ?_)
    rw [Function.comp_apply, Nat.succ_eq_add_one, Nat.add_assoc, Nat.add_comm 1 j]
  · have logged := rest.logged
    rwa [List.append_assoc] at logged

theorem for_blocks_visits (exact_sizes : Exact opts.fileSize opts.blockSize opts.blocks) (path : String) (random : Bool)
    (kind : AccessKind) (operation : UInt64 → Io Unit)
    (operates : ∀ offset log, Inside opts offset → Contract (Ready opts log) (operation offset)
      (fun _ => Ready opts (log ++ [entry opts kind offset])) fun _ => Ready opts (log ++ [entry opts kind offset]))
    (left : Nat) (i : UInt64) (hist : Histogram) (log : List Access) (within : i.toNat + left ≤ opts.blocks.toNat) :
    Contract (Ready opts log) (forBlocks host opts path random operation left i hist)
      (fun recorded disk => ∃ offsets, recorded.len = hist.len + offsets.length ∧
        Visits opts kind random log i.toNat left disk offsets)
      (fun _ disk => ∃ count ≤ left, ∃ offsets, Visits opts kind random log i.toNat count disk offsets) := by
  induction left generalizing i hist log with
  | zero =>
      apply contract_pure
      exact fun disk ready => ⟨[], rfl, visits_none opts kind random log i.toNat disk ready⟩
  | succ left ih =>
      have below : i < opts.blocks := UInt64.lt_iff_toNat_lt.mpr (by omega)
      have stopped : ∀ (_ : HpcError) disk, Ready opts log disk →
          ∃ count ≤ left + 1, ∃ offsets, Visits opts kind random log i.toNat count disk offsets :=
        fun _ disk ready => ⟨0, Nat.zero_le _, [], visits_none opts kind random log i.toNat disk ready⟩
      apply contract_bind _ _ _ _ _ _ (block_offset_ready host opts exact_sizes i below random log _)
      intro offset disk reached
      obtain ⟨ready, inside, inTurn⟩ := reached
      have next : (i + 1).toNat = i.toNat + 1 := by
        have bound := opts.blocks.toNat_lt
        rw [UInt64.toNat_add, UInt64.toNat_one, Nat.mod_eq_of_lt (by omega)]
      have rounds := ih (i + 1) (record hist) (log ++ [entry opts kind offset]) (by omega)
      rw [next] at rounds
      have rest : Contract (Ready opts log)
          (do
            touch host path
            operation offset
            forBlocks host opts path random operation left (i + 1) (record hist))
          (fun recorded disk => ∃ offsets, recorded.len = hist.len + offsets.length ∧
            Visits opts kind random log i.toNat (left + 1) disk offsets)
          (fun _ disk => ∃ count ≤ left + 1, ∃ offsets, Visits opts kind random log i.toNat count disk offsets) := by
        apply contract_bind _ _ _ (fun _ => Ready opts log)
        · exact contract_fails (touch_ready host opts path log) stopped
        · intro _
          apply contract_bind _ _ _ (fun _ => Ready opts (log ++ [entry opts kind offset]))
          · apply contract_fails (operates offset log inside)
            intro _ disk ready
            exact ⟨1, by omega, [offset], visits_cons opts kind random log i.toNat 0 disk offset [] inside inTurn
              (visits_none opts kind random _ _ disk ready)⟩
          · intro _
            apply contract_ends rounds
            · intro recorded disk reached
              obtain ⟨offsets, samples, visits⟩ := reached
              have counted : recorded.len = hist.len + (offset :: offsets).length := by
                rw [samples, record_len, List.length_cons]
                omega
              exact ⟨offset :: offsets, counted,
                visits_cons opts kind random log i.toNat left disk offset offsets inside inTurn visits⟩
            · intro _ disk reached
              obtain ⟨count, fewer, offsets, visits⟩ := reached
              exact ⟨count + 1, by omega, offset :: offsets,
                visits_cons opts kind random log i.toNat count disk offset offsets inside inTurn visits⟩
      exact rest disk ready

def IoPattern.kind : IoPattern → AccessKind
  | .sequentialRead | .randomRead => .read
  | .sequentialWrite | .randomWrite => .write

def IoPattern.random : IoPattern → Bool
  | .sequentialRead | .sequentialWrite => false
  | .randomRead | .randomWrite => true

theorem open_existing_ready (path : String) (log : List Access) :
    Contract (Ready opts log) (openExisting host path) (fun _ => Ready opts log) fun _ => Ready opts log := by
  intro disk reached
  obtain ⟨⟨content, present, size⟩, logged⟩ := reached
  have exists_file : ¬ disk.scratch = none := by
    rw [present]
    exact Option.some_ne_none content
  rw [openExisting, if_neg exists_file]
  exact touch_ready host opts path log disk ⟨⟨content, present, size⟩, logged⟩

theorem new_histogram_ready (log : List Access) :
    Contract (Ready opts log) (newHistogram host) (fun hist disk => hist.len = 0 ∧ Ready opts log disk)
      fun _ => Ready opts log := by
  rw [newHistogram]
  cases host.histogram with
  | none => exact contract_pure _ _ _ _ fun _ ready => ⟨rfl, ready⟩
  | some text => exact contract_throw _ _ _ _ fun _ ready => ready

theorem opened_blocks_visits (exact_sizes : Exact opts.fileSize opts.blockSize opts.blocks) (path : String) (random : Bool)
    (kind : AccessKind) (operation : UInt64 → Io Unit) (log : List Access)
    (operates : ∀ offset log, Inside opts offset → Contract (Ready opts log) (operation offset)
      (fun _ => Ready opts (log ++ [entry opts kind offset])) fun _ => Ready opts (log ++ [entry opts kind offset])) :
    Contract (Ready opts log)
      (do
        openExisting host path
        let hist ← newHistogram host
        forBlocks host opts path random operation opts.blocks.toNat 0 hist)
      (fun recorded disk => ∃ offsets, recorded.len = offsets.length ∧
        Visits opts kind random log 0 opts.blocks.toNat disk offsets)
      (fun _ disk => ∃ count ≤ opts.blocks.toNat, ∃ offsets, Visits opts kind random log 0 count disk offsets) := by
  have stopped : ∀ (_ : HpcError) disk, Ready opts log disk →
      ∃ count ≤ opts.blocks.toNat, ∃ offsets, Visits opts kind random log 0 count disk offsets :=
    fun _ disk ready => ⟨0, Nat.zero_le _, [], visits_none opts kind random log 0 disk ready⟩
  apply contract_bind _ _ _ (fun _ => Ready opts log)
  · exact contract_fails (open_existing_ready host opts path log) stopped
  · intro _
    apply contract_bind _ _ _ (fun hist disk => hist.len = 0 ∧ Ready opts log disk)
    · exact contract_fails (new_histogram_ready host opts log) stopped
    · intro hist disk reached
      obtain ⟨fresh, ready⟩ := reached
      have looped := for_blocks_visits host opts exact_sizes path random kind operation operates opts.blocks.toNat 0 hist log
        (by simp)
      rw [fresh, UInt64.toNat_zero] at looped
      refine contract_ends looped ?_ (fun _ _ ended => ended) disk ready
      intro recorded after reached
      obtain ⟨offsets, samples, visits⟩ := reached
      exact ⟨offsets, by rw [samples, Nat.zero_add], visits⟩

theorem touch_visits (path : String) (kind : AccessKind) (random : Bool) (log : List Access) (count samples : Nat) :
    Contract (fun disk => ∃ offsets, samples = offsets.length ∧ Visits opts kind random log 0 count disk offsets)
      (touch host path)
      (fun _ disk => ∃ offsets, samples = offsets.length ∧ Visits opts kind random log 0 count disk offsets)
      (fun _ disk => ∃ offsets, Visits opts kind random log 0 count disk offsets) := by
  intro disk reached
  obtain ⟨offsets, counted, visits⟩ := reached
  refine contract_ends (touch_ready host opts path (log ++ offsets.map (entry opts kind))) ?_ ?_ disk visits.logged
  · exact fun _ after ready => ⟨offsets, counted, visits.size, visits.inside, visits.inTurn, ready⟩
  · exact fun _ after ready => ⟨offsets, visits.size, visits.inside, visits.inTurn, ready⟩

theorem write_scenario_visits (exact_sizes : Exact opts.fileSize opts.blockSize opts.blocks) (path : String)
    (random : Bool) (log : List Access) :
    Contract (Ready opts log) (writeScenario host path opts random)
      (fun result disk => result.totalBytes = opts.blocks * opts.blockSize ∧
        ∃ offsets, result.samples = offsets.length ∧ Visits opts .write random log 0 opts.blocks.toNat disk offsets)
      (fun _ disk => ∃ count ≤ opts.blocks.toNat, ∃ offsets, Visits opts .write random log 0 count disk offsets) := by
  have looped := opened_blocks_visits host opts exact_sizes path random .write _ log
    fun offset log inside => write_block_ready host opts path log offset inside
  have whole := contract_bind _ _ (fun hist => do
    touch host path
    pure (summarise (if random then .randomWrite else .sequentialWrite) opts.blockSize opts.blocks hist))
    _ (fun result disk => result.totalBytes = opts.blocks * opts.blockSize ∧
      ∃ offsets, result.samples = offsets.length ∧ Visits opts .write random log 0 opts.blocks.toNat disk offsets) _ looped
  simp only [bind_assoc] at whole
  apply whole
  intro recorded
  apply contract_bind _ _ _ _ _ _ (contract_fails (touch_visits host opts path .write random log opts.blocks.toNat recorded.len)
    fun _ _ visits => ⟨opts.blocks.toNat, Nat.le_refl _, visits⟩)
  intro _
  apply contract_pure
  exact fun disk visits => ⟨rfl, visits⟩

theorem read_scenario_visits (exact_sizes : Exact opts.fileSize opts.blockSize opts.blocks) (path : String)
    (random : Bool) (log : List Access) :
    Contract (Ready opts log) (readScenario host path opts random)
      (fun result disk => result.totalBytes = opts.blocks * opts.blockSize ∧
        ∃ offsets, result.samples = offsets.length ∧ Visits opts .read random log 0 opts.blocks.toNat disk offsets)
      (fun _ disk => ∃ count ≤ opts.blocks.toNat, ∃ offsets, Visits opts .read random log 0 count disk offsets) := by
  have looped := opened_blocks_visits host opts exact_sizes path random .read _ log
    fun offset log inside => read_block_ready host opts path log offset inside
  have whole := contract_bind _ _ (fun hist =>
    pure (summarise (if random then .randomRead else .sequentialRead) opts.blockSize opts.blocks hist))
    _ (fun result disk => result.totalBytes = opts.blocks * opts.blockSize ∧
      ∃ offsets, result.samples = offsets.length ∧ Visits opts .read random log 0 opts.blocks.toNat disk offsets) _ looped
  simp only [bind_assoc] at whole
  apply whole
  intro recorded
  apply contract_pure
  exact fun disk visits => ⟨rfl, visits⟩

theorem run_pattern_visits (exact_sizes : Exact opts.fileSize opts.blockSize opts.blocks) (path : String)
    (pattern : IoPattern) (log : List Access) :
    Contract (Ready opts log) (runPattern host path opts pattern)
      (fun result disk => result.totalBytes = opts.blocks * opts.blockSize ∧
        ∃ offsets, result.samples = offsets.length ∧
          Visits opts pattern.kind pattern.random log 0 opts.blocks.toNat disk offsets)
      (fun _ disk => ∃ count ≤ opts.blocks.toNat, ∃ offsets,
        Visits opts pattern.kind pattern.random log 0 count disk offsets) := by
  cases pattern with
  | sequentialRead => exact read_scenario_visits host opts exact_sizes path false log
  | sequentialWrite => exact write_scenario_visits host opts exact_sizes path false log
  | randomRead => exact read_scenario_visits host opts exact_sizes path true log
  | randomWrite => exact write_scenario_visits host opts exact_sizes path true log

end Scenarios

section Suite

variable (host : Host) (opts : BenchOptions)

structure Within (access : Access) : Prop where
  len : access.len = opts.blockSize.toNat
  range : access.offset.toNat + access.len ≤ opts.fileSize.toNat
  present : access.kind = .read → access.offset.toNat + access.len ≤ access.size

def AllWithin (disk : Disk) : Prop := ∀ access ∈ disk.log, Within opts access

theorem entry_within (kind : AccessKind) (offset : UInt64) (inside : Inside opts offset) :
    Within opts (entry opts kind offset) := ⟨rfl, inside, fun _ => inside⟩

theorem visits_within (kind : AccessKind) (random : Bool) (before after : Disk) (first count : Nat) (offsets : List UInt64)
    (all : AllWithin opts before) (visits : Visits opts kind random before.log first count after offsets) :
    AllWithin opts after := by
  intro access member
  rw [visits.logged.2] at member
  rcases List.mem_append.mp member with earlier | fresh
  · exact all access earlier
  · obtain ⟨offset, listed, rfl⟩ := List.mem_map.mp fresh
    exact entry_within opts kind offset (visits.inside offset listed)

def Steady (disk : Disk) : Prop := Ready opts disk.log disk ∧ AllWithin opts disk

def WholeResult (result : BenchResult) : Prop :=
  result.totalBytes = opts.blocks * opts.blockSize ∧ result.samples = opts.blocks.toNat

theorem run_pattern_steady (exact_sizes : Exact opts.fileSize opts.blockSize opts.blocks) (path : String)
    (pattern : IoPattern) :
    Contract (Steady opts) (runPattern host path opts pattern)
      (fun result disk => WholeResult opts result ∧ Steady opts disk) fun _ => Steady opts := by
  intro disk reached
  obtain ⟨ready, all⟩ := reached
  have steady : ∀ count offsets after,
      Visits opts pattern.kind pattern.random disk.log 0 count after offsets → Steady opts after :=
    fun count offsets after visits => ⟨⟨visits.logged.1, rfl⟩, visits_within opts _ _ disk after 0 count offsets all visits⟩
  refine contract_ends (run_pattern_visits host opts exact_sizes path pattern disk.log) ?_ ?_ disk ready
  · intro result after reached
    obtain ⟨total, offsets, samples, visits⟩ := reached
    exact ⟨⟨total, by rw [samples, visits.size]⟩, steady _ offsets after visits⟩
  · intro error after reached
    obtain ⟨count, _, offsets, visits⟩ := reached
    exact steady count offsets after visits

theorem remove_file_within (pre : Disk → Prop) (failure : HpcError → Disk → Prop) (keeps : ∀ disk, pre disk → AllWithin opts disk) :
    Contract pre removeFile (fun _ => AllWithin opts) failure := fun disk before => keeps disk before

theorem run_patterns_within (exact_sizes : Exact opts.fileSize opts.blockSize opts.blocks) (path : String)
    (patterns : List IoPattern) :
    Contract (Steady opts) (runPatterns host path opts patterns)
      (fun results disk => (∀ result ∈ results, WholeResult opts result) ∧ AllWithin opts disk) fun _ => AllWithin opts := by
  induction patterns with
  | nil =>
      apply contract_pure
      exact fun disk steady => ⟨fun _ absent => (by cases absent), steady.2⟩
  | cons pattern rest ih =>
      apply contract_bind _ _ _ (fun result disk => WholeResult opts result ∧ Steady opts disk)
      · apply contract_tryCatch _ _ _ _ _ _ (run_pattern_steady host opts exact_sizes path pattern)
        intro error
        apply contract_bind _ _ _ _ _ _ (remove_file_within opts _ _ fun _ steady => steady.2)
        intro _
        apply contract_throw
        exact fun _ all => all
      · intro result disk reached
        obtain ⟨whole, steady⟩ := reached
        have later : Contract (Steady opts)
            (do
              let results ← runPatterns host path opts rest
              pure (result :: results))
            (fun results disk => (∀ result ∈ results, WholeResult opts result) ∧ AllWithin opts disk)
            fun _ => AllWithin opts := by
          apply contract_bind _ _ _ _ _ _ ih
          intro results
          apply contract_pure
          intro after reached
          obtain ⟨wholes, all⟩ := reached
          refine ⟨?_, all⟩
          intro other member
          rcases List.mem_cons.mp member with rfl | listed
          · exact whole
          · exact wholes other listed
        exact later disk steady

theorem run_within (exact_sizes : Exact opts.fileSize opts.blockSize opts.blocks) :
    Contract (fun disk => disk.log = []) (run host opts)
      (fun report disk => (∀ result ∈ report.results, WholeResult opts result) ∧ AllWithin opts disk)
      fun _ => AllWithin opts := by
  have unlogged : ∀ (disk : Disk), disk.log = [] → AllWithin opts disk := by
    intro disk none access member
    rw [none] at member
    cases member
  apply contract_bind _ _ _ (fun _ disk => disk.log = [])
  · intro disk none
    cases opts.validate with
    | error error => exact unlogged disk none
    | ok accepted => exact none
  · intro _
    apply contract_bind _ _ _ (fun _ disk => disk.log = [])
    · apply step_contract
      · exact fun disk none => none
      · exact fun disk fault none => unlogged _ none
    · intro _
      apply contract_bind _ _ _ (fun _ => Steady opts)
      · apply contract_ends (prepare_file_zeros host _ opts.fileSize [])
        · intro _ disk reached
          obtain ⟨prepared, none⟩ := reached
          exact ⟨⟨⟨_, prepared, List.length_replicate⟩, rfl⟩, unlogged disk none⟩
        · exact fun _ disk none => unlogged disk none
      · intro _
        apply contract_bind _ _ _ _ _ _ (run_patterns_within host opts exact_sizes _ opts.patterns)
        intro results disk reached
        obtain ⟨wholes, all⟩ := reached
        exact ⟨wholes, all⟩

structure Bounded : Prop where
  exact_sizes : Exact opts.fileSize opts.blockSize opts.blocks
  prepares : ∀ (path : String) (before after : Disk), prepareFile host path opts.fileSize before = (.ok (), after) →
    after.scratch = some (List.replicate opts.fileSize.toNat 0)
  accesses : ∀ disk : Disk, disk.log = [] → AllWithin opts (run host opts disk).2
  reports : ∀ (disk after : Disk) (report : BenchReport), disk.log = [] → run host opts disk = (.ok report, after) →
    ∀ result ∈ report.results, result.totalBytes.toNat ≤ opts.fileSize.toNat ∧ result.samples = opts.blocks.toNat
  sequential : ∀ (path : String) (pattern : IoPattern) (before after : Disk) (result : BenchResult),
    pattern.random = false → Steady opts before → runPattern host path opts pattern before = (.ok result, after) →
      ∃ fresh, after.log = before.log ++ fresh ∧
        Tiles (fresh.map fun access => (access.offset.toNat, access.len)) (opts.blocks * opts.blockSize).toNat

theorem suite_bounded (valid : opts.validate = .ok ()) : Bounded host opts := by
  have exact_sizes := valid_exact opts valid
  refine ⟨exact_sizes, ?_, ?_, ?_, ?_⟩
  · intro path before after prepared
    have reached := prepare_file_zeros host path opts.fileSize before.log before rfl
    rw [prepared] at reached
    exact reached.1
  · intro disk none
    refine contract_leaves (fun disk => disk.log = []) _ (AllWithin opts) ?_ disk none
    exact contract_ends (run_within host opts exact_sizes) (fun _ _ ended => ended.2)
      fun _ _ all => all
  · intro disk after report none ran result member
    have reached := run_within host opts exact_sizes disk none
    rw [ran] at reached
    obtain ⟨total, samples⟩ := reached.1 result member
    refine ⟨?_, samples⟩
    rw [total, exact_sizes.total]
    exact exact_sizes.total_le
  · intro path pattern before after result sequential steady ran
    have reached := run_pattern_visits host opts exact_sizes path pattern before.log before steady.1
    rw [ran] at reached
    obtain ⟨_, offsets, _, visits⟩ := reached
    refine ⟨_, visits.logged.2, ?_⟩
    have inTurn := visits.inTurn sequential
    have ranges : (offsets.map (entry opts pattern.kind)).map (fun access => (access.offset.toNat, access.len)) =
        (List.range opts.blocks.toNat).map fun i => (i * opts.blockSize.toNat, opts.blockSize.toNat) := by
      have starts := congrArg (List.map fun start => (start, opts.blockSize.toNat)) inTurn
      rw [List.map_map, List.map_map] at starts
      rw [List.map_map]
      refine starts.trans (List.map_congr_left fun i _ => ?_)
      rw [Function.comp_apply, Nat.zero_add]
    rw [ranges, exact_sizes.total]
    exact tiles_range _ _

end Suite

end Hpc.Bench
