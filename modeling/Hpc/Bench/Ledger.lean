import Mathlib.Algebra.GroupWithZero.Nat
import Hpc.Bench.Bounds

set_option autoImplicit false

namespace Hpc.Bench

open Hpc.Core Hpc.Lib

section Ledger

variable (host : Host) (opts : BenchOptions)

-- The first operations of a scenario: each of its kind, of one block and inside the file, and one block after the other
-- unless they are random.
structure Portion (pattern : IoPattern) (offsets : List UInt64) : Prop where
  inside : ∀ offset ∈ offsets, Inside opts offset
  inTurn : pattern.random = false → offsets.map UInt64.toNat = (List.range offsets.length).map (· * opts.blockSize.toNat)

def operations (pattern : IoPattern) (offsets : List UInt64) : List Access := offsets.map (entry opts pattern.kind)

structure Accounts (pattern : IoPattern) (result : BenchResult) (offsets : List UInt64) : Prop where
  portion : Portion opts pattern offsets
  named : result.pattern = pattern
  block : result.blockSizeBytes = opts.blockSize
  every : offsets.length = opts.blocks.toNat
  samples : result.samples = (operations opts pattern offsets).length
  bytes : result.totalBytes.toNat = ((operations opts pattern offsets).map Access.len).sum

inductive Carried : List IoPattern → List BenchResult → List Access → Prop where
  | done : Carried [] [] []
  | scenario (pattern : IoPattern) (result : BenchResult) (offsets : List UInt64) (patterns : List IoPattern)
      (results : List BenchResult) (log : List Access) (accounts : Accounts opts pattern result offsets)
      (rest : Carried patterns results log) :
      Carried (pattern :: patterns) (result :: results) (operations opts pattern offsets ++ log)

-- Some scenarios in full, and no more than the rounds of the next.
inductive Broken : List IoPattern → List Access → Prop where
  | here (pattern : IoPattern) (offsets : List UInt64) (patterns : List IoPattern) (portion : Portion opts pattern offsets)
      (most : offsets.length ≤ opts.blocks.toNat) : Broken (pattern :: patterns) (operations opts pattern offsets)
  | later (pattern : IoPattern) (result : BenchResult) (offsets : List UInt64) (patterns : List IoPattern) (log : List Access)
      (accounts : Accounts opts pattern result offsets) (rest : Broken patterns log) :
      Broken (pattern :: patterns) (operations opts pattern offsets ++ log)

theorem visits_portion (pattern : IoPattern) (log : List Access) (count : Nat) (disk : Disk) (offsets : List UInt64)
    (visits : Visits opts pattern.kind pattern.random log 0 count disk offsets) : Portion opts pattern offsets := by
  refine ⟨visits.inside, fun sequential => ?_⟩
  rw [visits.inTurn sequential, visits.size]
  exact List.map_congr_left fun j _ => by rw [Nat.zero_add]

theorem operations_bytes (pattern : IoPattern) (offsets : List UInt64) :
    ((operations opts pattern offsets).map Access.len).sum = offsets.length * opts.blockSize.toNat := by
  rw [operations, List.map_map]
  change (offsets.map fun _ => opts.blockSize.toNat).sum = _
  rw [List.map_const', List.sum_replicate_nat]

theorem write_scenario_names (path : String) (random : Bool) :
    Contract (fun _ => True) (writeScenario host path opts random)
      (fun result _ =>
        result.pattern = (if random then .randomWrite else .sequentialWrite) ∧ result.blockSizeBytes = opts.blockSize)
      fun _ _ => True := by
  apply contract_bind _ _ _ (fun _ _ => True) _ _ (contract_true _ _)
  intro _
  apply contract_bind _ _ _ (fun _ _ => True) _ _ (contract_true _ _)
  intro _
  apply contract_bind _ _ _ (fun _ _ => True) _ _ (contract_true _ _)
  intro _
  apply contract_bind _ _ _ (fun _ _ => True) _ _ (contract_true _ _)
  intro _
  exact contract_pure _ _ _ _ fun _ _ => ⟨rfl, rfl⟩

theorem read_scenario_names (path : String) (random : Bool) :
    Contract (fun _ => True) (readScenario host path opts random)
      (fun result _ =>
        result.pattern = (if random then .randomRead else .sequentialRead) ∧ result.blockSizeBytes = opts.blockSize)
      fun _ _ => True := by
  apply contract_bind _ _ _ (fun _ _ => True) _ _ (contract_true _ _)
  intro _
  apply contract_bind _ _ _ (fun _ _ => True) _ _ (contract_true _ _)
  intro _
  apply contract_bind _ _ _ (fun _ _ => True) _ _ (contract_true _ _)
  intro _
  exact contract_pure _ _ _ _ fun _ _ => ⟨rfl, rfl⟩

theorem run_pattern_names (path : String) (pattern : IoPattern) :
    Contract (fun _ => True) (runPattern host path opts pattern)
      (fun result _ => result.pattern = pattern ∧ result.blockSizeBytes = opts.blockSize) fun _ _ => True := by
  cases pattern with
  | sequentialRead => exact read_scenario_names host opts path false
  | sequentialWrite => exact write_scenario_names host opts path false
  | randomRead => exact read_scenario_names host opts path true
  | randomWrite => exact write_scenario_names host opts path true

theorem run_pattern_accounts (exact_sizes : Exact opts.fileSize opts.blockSize opts.blocks) (path : String)
    (pattern : IoPattern) (log : List Access) :
    Contract (Ready opts log) (runPattern host path opts pattern)
      (fun result disk => ∃ offsets, Accounts opts pattern result offsets ∧
        Ready opts (log ++ operations opts pattern offsets) disk)
      (fun _ disk => ∃ offsets, Portion opts pattern offsets ∧ offsets.length ≤ opts.blocks.toNat ∧
        disk.log = log ++ operations opts pattern offsets) := by
  have both := contract_and (run_pattern_visits host opts exact_sizes path pattern log) (run_pattern_names host opts path pattern)
  refine contract_weaken _ both (fun disk ready => ⟨ready, trivial⟩) ?_ ?_
  · intro result disk reached
    obtain ⟨⟨bytes, offsets, samples, visits⟩, named, block⟩ := reached
    refine ⟨offsets, ⟨visits_portion opts pattern log _ disk offsets visits, named, block, visits.size, ?_, ?_⟩, visits.logged⟩
    · rw [samples, operations, List.length_map]
    · rw [bytes, exact_sizes.total, operations_bytes, visits.size]
  · intro error disk reached
    obtain ⟨⟨count, most, offsets, visits⟩, _⟩ := reached
    exact ⟨offsets, visits_portion opts pattern log count disk offsets visits, visits.size ▸ most, visits.logged.2⟩

theorem run_patterns_carried (exact_sizes : Exact opts.fileSize opts.blockSize opts.blocks) (path : String)
    (patterns : List IoPattern) (log : List Access) :
    Contract (Ready opts log) (runPatterns host path opts patterns)
      (fun results disk => ∃ fresh, disk.log = log ++ fresh ∧ Carried opts patterns results fresh)
      (fun _ disk => ∃ fresh, disk.log = log ++ fresh ∧ Broken opts patterns fresh) := by
  induction patterns generalizing log with
  | nil =>
      apply contract_pure
      exact fun disk ready => ⟨[], by rw [ready.2, List.append_nil], .done⟩
  | cons pattern rest ih =>
      apply contract_bind _ _ _ (fun result disk => ∃ offsets, Accounts opts pattern result offsets ∧
        Ready opts (log ++ operations opts pattern offsets) disk)
      · apply contract_tryCatch _ _ _ _ _ _ (run_pattern_accounts host opts exact_sizes path pattern log)
        intro error disk reached
        obtain ⟨offsets, portion, most, logged⟩ := reached
        exact ⟨operations opts pattern offsets, logged, .here pattern offsets rest portion most⟩
      · intro result disk reached
        obtain ⟨offsets, accounts, ready⟩ := reached
        have later : Contract (Ready opts (log ++ operations opts pattern offsets))
            (do
              let results ← runPatterns host path opts rest
              pure (result :: results))
            (fun results disk => ∃ fresh, disk.log = log ++ fresh ∧ Carried opts (pattern :: rest) results fresh)
            (fun _ disk => ∃ fresh, disk.log = log ++ fresh ∧ Broken opts (pattern :: rest) fresh) := by
          apply contract_bind _ _ _ _ _ _ (contract_fails (ih _) ?_)
          · intro results
            apply contract_pure
            intro after reached
            obtain ⟨fresh, logged, carried⟩ := reached
            exact ⟨_, by rw [logged, List.append_assoc], .scenario pattern result offsets rest results fresh accounts carried⟩
          · intro error after reached
            obtain ⟨fresh, logged, broken⟩ := reached
            exact ⟨_, by rw [logged, List.append_assoc], .later pattern result offsets rest fresh accounts broken⟩
        exact later disk ready

def Ledger (disk : Disk) : Except HpcError BenchReport × Disk → Prop
  | (.ok report, after) => report.targetPath = opts.path ∧
      ∃ fresh, after.log = disk.log ++ fresh ∧ Carried opts opts.patterns report.results fresh
  | (.error _, after) => after.log = disk.log ∨ ∃ fresh, after.log = disk.log ++ fresh ∧ Broken opts opts.patterns fresh

-- A report stands for the operations of the run, all of them and no others: for each pattern in turn, one result whose
-- figures are those of the operations on exactly that file. A run that fails has stopped within one of its scenarios, with
-- those before it carried out in full.
theorem report_carried_out (disk : Disk) : Ledger opts disk (run host opts disk) := by
  have untouched (path : String) : Contract (fun state => state.log = disk.log) (touch host path)
      (fun _ state => state.log = disk.log) fun _ state => state.log = disk.log := by
    apply step_contract
    · exact fun _ same => same
    · exact fun _ _ same => same
  have suite : Contract (fun state => state.log = disk.log) (run host opts)
      (fun report after => Ledger opts disk (.ok report, after)) fun error after => Ledger opts disk (.error error, after) := by
    apply contract_bind _ _ _ (fun _ state => opts.validate = .ok () ∧ state.log = disk.log)
    · intro state same
      cases checked : opts.validate with
      | error error => exact Or.inl same
      | ok accepted => exact ⟨rfl, same⟩
    · intro _ state reached
      obtain ⟨valid, same⟩ := reached
      have exact_sizes := valid_exact opts valid
      refine contract_bind _ _ _ _ _ _ (contract_fails (untouched opts.path) fun _ _ kept => Or.inl kept) ?_ state same
      intro _
      apply contract_bind _ _ _ (fun _ => Ready opts disk.log)
      · apply contract_ends (prepare_file_zeros host _ opts.fileSize disk.log)
        · exact fun _ _ reached => ⟨⟨_, reached.1, List.length_replicate⟩, reached.2⟩
        · exact fun _ _ kept => Or.inl kept
      · intro _
        apply contract_bind _ _ _ _ _ _
          (contract_fails (run_patterns_carried host opts exact_sizes _ opts.patterns disk.log) fun _ _ broken => Or.inr broken)
        intro results after carried
        exact ⟨rfl, carried⟩
  have reached := suite disk rfl
  cases ran : run host opts disk with
  | mk outcome after =>
      rw [ran] at reached
      cases outcome with
      | ok report => exact reached
      | error error => exact reached

end Ledger

end Hpc.Bench
