import Hpc.Bench.Run

set_option autoImplicit false

namespace Hpc.Bench

open Hpc.Core Hpc.Lib

section Preparation

variable (host : Host)

-- An action of k I/O steps on a scratch file that exists: it fails exactly when one of them does, and the file stays.
def Runs {A : Type} (k : Nat) (action : Io A) : Prop :=
  ∀ first, Contract (fun disk => disk.steps = first ∧ disk.scratch.isSome) action
    (fun _ disk => (∀ i < k, host.fault (first + i) = none) ∧ disk.steps = first + k ∧ disk.scratch.isSome)
    (fun _ disk => (∃ i < k, host.fault (first + i) ≠ none) ∧ disk.scratch.isSome)

theorem runs_pure {A : Type} (result : A) : Runs host 0 (pure result) := by
  intro first
  apply contract_pure
  exact fun disk before => ⟨fun i none => absurd none (Nat.not_lt_zero i), before⟩

theorem runs_step (path : String) (effect : List UInt8 → List UInt8) (half : Fault → List UInt8 → List UInt8) :
    Runs host 1 (step host path effect half) := by
  intro first disk reached
  obtain ⟨rfl, present⟩ := reached
  cases outcome : host.fault disk.steps with
  | none =>
      rw [step, outcome]
      refine ⟨?_, rfl, by simpa using present⟩
      intro i only
      rwa [Nat.lt_one_iff.mp only]
  | some fault =>
      rw [step, outcome]
      exact ⟨⟨0, Nat.one_pos, by rw [Nat.add_zero, outcome]; exact Option.some_ne_none fault⟩, by simpa using present⟩

theorem runs_bind {A B : Type} (k m : Nat) (first : Io A) (rest : A → Io B) (starts : Runs host k first)
    (goes_on : ∀ result, Runs host m (rest result)) : Runs host (k + m) (first >>= rest) := by
  intro begins
  apply contract_bind _ first rest
    (fun _ disk => (∀ i < k, host.fault (begins + i) = none) ∧ disk.steps = begins + k ∧ disk.scratch.isSome)
  · apply contract_fails (starts begins)
    intro error disk reached
    obtain ⟨⟨i, early, failed⟩, present⟩ := reached
    exact ⟨⟨i, by omega, failed⟩, present⟩
  · intro result disk reached
    obtain ⟨clean, there⟩ := reached
    refine contract_weaken (fun state => state = disk) (goes_on result (begins + k)) ?_ ?_ ?_ disk rfl
    · intro _ same
      subst same
      exact there
    · intro outcome after reached
      obtain ⟨later, steps, present⟩ := reached
      refine ⟨?_, by omega, present⟩
      intro i within
      by_cases early : i < k
      · exact clean i early
      · have shifted := later (i - k) (by omega)
        rwa [Nat.add_assoc, Nat.add_sub_cancel' (Nat.le_of_not_lt early)] at shifted
    · intro error after reached
      obtain ⟨⟨i, within, failed⟩, present⟩ := reached
      rw [Nat.add_assoc] at failed
      exact ⟨⟨k + i, by omega, failed⟩, present⟩

def chunks (size : Nat) : Nat := (size + 1048575) / 1048576

theorem runs_prepare_loop (path : String) (position : Nat) (remaining : UInt64) :
    Runs host (chunks remaining.toNat) (prepareLoop host path position remaining) := by
  induction size : remaining.toNat using Nat.strongRecOn generalizing position remaining with
  | ind total ih =>
      rw [prepareLoop]
      by_cases more : 0 < remaining
      · have fewer := remaining_shrinks remaining more
        have left := chunk_subtracts remaining
        have later := ih _ (size ▸ fewer) (position + (min remaining PREP_CHUNK).toNat) (remaining - min remaining PREP_CHUNK) rfl
        have count : chunks total = 1 + chunks (remaining - min remaining PREP_CHUNK).toNat := by
          have positive : 0 < remaining.toNat := UInt64.lt_iff_toNat_lt.mp more
          rw [chunks, chunks, left]
          omega
        rw [if_pos more, count]
        exact runs_bind host 1 _ _ _ (runs_step host path _ _) fun _ => later
      · have none : total = 0 := by
          rw [UInt64.lt_iff_toNat_lt, UInt64.toNat_zero] at more
          omega
        rw [if_neg more, none]
        exact runs_pure host ()

theorem runs_prepared (path : String) (size : UInt64) : Runs host (chunks size.toNat + 2) (do
    prepareLoop host path 0 size
    touch host path
    touch host path) := by
  apply runs_bind host (chunks size.toNat) 2 _ _ (runs_prepare_loop host path 0 size)
  intro _
  exact runs_bind host 1 1 _ _ (runs_step host path _ _) fun _ => runs_step host path _ _

theorem touch_contract (path : String) (first : Nat) (present : Bool) :
    Contract (fun disk => disk.steps = first ∧ disk.scratch.isSome = present) (touch host path)
      (fun _ disk => host.fault first = none ∧ disk.steps = first + 1 ∧ disk.scratch.isSome = present)
      (fun _ disk => host.fault first ≠ none ∧ disk.scratch.isSome = present) := by
  intro disk reached
  obtain ⟨rfl, there⟩ := reached
  cases outcome : host.fault disk.steps with
  | none =>
      rw [touch, step, outcome]
      exact ⟨rfl, rfl, by simpa using there⟩
  | some fault =>
      rw [touch, step, outcome]
      exact ⟨Option.some_ne_none fault, by simpa using there⟩

theorem prepare_file_contract (path : String) (size : UInt64) (first : Nat) (present : Bool) :
    Contract (fun disk => disk.steps = first ∧ disk.scratch.isSome = present) (prepareFile host path size)
      (fun _ _ => ∀ i < chunks size.toNat + 3, host.fault (first + i) = none)
      (fun _ disk => host.fault first ≠ none ∧ disk.scratch.isSome = present ∨
        host.fault first = none ∧ (∃ i < chunks size.toNat + 3, host.fault (first + i) ≠ none) ∧ disk.scratch.isSome = true) := by
  apply contract_bind _ _ _ (fun _ disk => host.fault first = none ∧ disk.steps = first + 1 ∧ disk.scratch.isSome = true)
  · intro disk reached
    obtain ⟨rfl, there⟩ := reached
    cases outcome : host.fault disk.steps with
    | none =>
        rw [openTruncated, outcome]
        exact ⟨rfl, rfl, rfl⟩
    | some fault =>
        rw [openTruncated, outcome]
        exact Or.inl ⟨Option.some_ne_none fault, there⟩
  · intro _ disk reached
    obtain ⟨opened, there⟩ := reached
    refine contract_ends (runs_prepared host path size (first + 1)) ?_ ?_ disk there
    · intro _ after reached i within
      obtain ⟨clean, _⟩ := reached
      cases i with
      | zero => exact opened
      | succ i =>
          have shifted := clean i (by omega)
          rwa [Nat.add_right_comm, Nat.add_assoc] at shifted
    · intro _ after reached
      obtain ⟨⟨i, within, failed⟩, left⟩ := reached
      rw [Nat.add_assoc, Nat.add_comm 1 i] at failed
      exact Or.inr ⟨opened, ⟨i + 1, by omega, failed⟩, left⟩

theorem remove_file_contract (pre : Disk → Prop) (failure : HpcError → Disk → Prop) :
    Contract pre removeFile (fun _ disk => disk.scratch = none) failure := fun _ _ => rfl

theorem run_patterns_contract (path : String) (opts : BenchOptions) (patterns : List IoPattern) :
    Contract (fun _ => True) (runPatterns host path opts patterns) (fun _ _ => True) fun _ disk => disk.scratch = none := by
  induction patterns with
  | nil =>
      apply contract_pure
      exact fun _ _ => trivial
  | cons pattern rest ih =>
      apply contract_bind _ _ _ fun _ _ => True
      · apply contract_tryCatch _ _ _ _ fun _ _ => True
        · intro disk _
          cases ran : runPattern host path opts pattern disk with
          | mk outcome after => cases outcome <;> trivial
        · intro error
          apply contract_bind _ _ _ _ _ _ (remove_file_contract _ _)
          intro _
          apply contract_throw
          exact fun disk removed => removed
      · intro result
        apply contract_bind _ _ _ (fun _ _ => True) _ _ ih
        intro results
        apply contract_pure
        exact fun _ _ => trivial

theorem scenarios_contract (path : String) (opts : BenchOptions) :
    Contract (fun _ => True)
      (do
        let results ← runPatterns host path opts opts.patterns
        removeFile
        pure (⟨opts.path, host.now, results⟩ : BenchReport))
      (fun _ disk => disk.scratch = none) fun _ disk => disk.scratch = none := by
  apply contract_bind _ _ _ (fun _ _ => True) _ _ (run_patterns_contract host path opts opts.patterns)
  intro results
  apply contract_bind _ _ _ _ _ _ (remove_file_contract _ _)
  intro _
  apply contract_pure
  exact fun disk removed => removed

end Preparation

section Cleanup

variable (host : Host) (opts : BenchOptions)

def preparationSteps : Nat := chunks opts.fileSize.toNat + 4

-- Either the preparation goes through, or there was no file and the run ends before it makes one.
def LeavesNothing (disk : Disk) : Prop :=
  (opts.validate = .ok () ∧ ∀ i < preparationSteps opts, host.fault (disk.steps + i) = none) ∨
    disk.scratch = none ∧
      (opts.validate ≠ .ok () ∨ host.fault disk.steps ≠ none ∨ host.fault (disk.steps + 1) ≠ none)

theorem same_presence (before after : Disk) (kept : after.scratch.isSome = before.scratch.isSome) :
    after.scratch = none ↔ before.scratch = none := by
  rw [← Option.not_isSome_iff_eq_none, kept, Option.not_isSome_iff_eq_none]

theorem prepared_contract (disk : Disk) (valid : opts.validate = .ok ()) (made : host.fault disk.steps = none) :
    Contract (fun state => state.steps = disk.steps + 1 ∧ state.scratch.isSome = disk.scratch.isSome)
      (do
        prepareFile host (join opts.path ".hpc-bench.dat") opts.fileSize
        let results ← runPatterns host (join opts.path ".hpc-bench.dat") opts opts.patterns
        removeFile
        pure (⟨opts.path, host.now, results⟩ : BenchReport))
      (fun _ after => after.scratch = none ↔ LeavesNothing host opts disk)
      fun _ after => after.scratch = none ↔ LeavesNothing host opts disk := by
  apply contract_bind _ _ _ (fun _ _ => ∀ i < chunks opts.fileSize.toNat + 3, host.fault (disk.steps + 1 + i) = none)
  · apply contract_fails (prepare_file_contract host _ opts.fileSize (disk.steps + 1) disk.scratch.isSome)
    intro _ after reached
    rcases reached with ⟨failed, kept⟩ | ⟨opened, ⟨i, within, failed⟩, left⟩
    · rw [same_presence disk after kept]
      apply Iff.intro
      · exact fun absent => Or.inr ⟨absent, Or.inr (Or.inr failed)⟩
      · intro nothing
        rcases nothing with ⟨_, clean⟩ | ⟨absent, _⟩
        · exact absurd (clean 1 (by rw [preparationSteps]; omega)) failed
        · exact absent
    · apply iff_of_false
      · intro absent
        rw [absent] at left
        cases left
      · intro nothing
        rcases nothing with ⟨_, clean⟩ | ⟨_, invalid | unmade | unopened⟩
        · rw [Nat.add_assoc] at failed
          exact failed (clean (1 + i) (by rw [preparationSteps]; omega))
        · exact invalid valid
        · exact unmade made
        · exact unopened opened
  · intro _ state clean
    have prepared : LeavesNothing host opts disk := by
      apply Or.inl
      apply And.intro valid
      intro i within
      cases i with
      | zero => exact made
      | succ i =>
          have shifted := clean i (by rw [preparationSteps] at within; omega)
          rwa [Nat.add_assoc, Nat.add_comm 1 i] at shifted
    have removes := scenarios_contract host (join opts.path ".hpc-bench.dat") opts
    exact contract_weaken (fun other => other = state) removes (fun _ _ => trivial)
      (fun _ _ removed => iff_of_true removed prepared) (fun _ _ removed => iff_of_true removed prepared) state rfl

theorem validated_contract (disk : Disk) (valid : opts.validate = .ok ()) :
    Contract (fun state => state = disk)
      (do
        touch host opts.path
        prepareFile host (join opts.path ".hpc-bench.dat") opts.fileSize
        let results ← runPatterns host (join opts.path ".hpc-bench.dat") opts opts.patterns
        removeFile
        pure (⟨opts.path, host.now, results⟩ : BenchReport))
      (fun _ after => after.scratch = none ↔ LeavesNothing host opts disk)
      fun _ after => after.scratch = none ↔ LeavesNothing host opts disk := by
  apply contract_bind _ _ _ (fun _ middle => host.fault disk.steps = none ∧ middle.steps = disk.steps + 1 ∧
    middle.scratch.isSome = disk.scratch.isSome)
  · apply contract_weaken _ (touch_contract host opts.path disk.steps disk.scratch.isSome)
    · intro _ same
      subst same
      exact ⟨rfl, rfl⟩
    · exact fun _ _ after => after
    · intro _ after reached
      obtain ⟨failed, kept⟩ := reached
      rw [same_presence disk after kept]
      apply Iff.intro
      · exact fun absent => Or.inr ⟨absent, Or.inr (Or.inl failed)⟩
      · intro nothing
        rcases nothing with ⟨_, clean⟩ | ⟨absent, _⟩
        · exact absurd (clean 0 (Nat.zero_lt_succ _)) failed
        · exact absent
  · intro _ middle reached
    obtain ⟨made, there⟩ := reached
    exact prepared_contract host opts disk valid made middle there

theorem leaves_nothing_iff (disk : Disk) : (run host opts disk).2.scratch = none ↔ LeavesNothing host opts disk := by
  cases checked : opts.validate with
  | error error =>
      have ended : run host opts disk = (.error error, disk) := by
        rw [run, checked]
        rfl
      rw [ended, LeavesNothing, checked]
      simp
  | ok accepted =>
      rw [run, checked]
      exact contract_leaves _ _ _ (validated_contract host opts disk checked) disk rfl

end Cleanup

section Samples

def fullDisk : Host where
  fault i := if i = 2 then some ⟨"No space left on device (os error 28)", 0⟩ else none
  draw _ _ := 0
  draw_lt _ _ some_blocks := some_blocks
  histogram := none
  now := 1000

def oneBlock : BenchOptions := ⟨"/mnt/scratch", 4096, 65536, [.sequentialWrite], false⟩

theorem full_disk_leaves_file :
    run fullDisk oneBlock ⟨none, 0, 0, []⟩ =
        (.error (.io (some "/mnt/scratch/.hpc-bench.dat") "No space left on device (os error 28)"), ⟨some [], 3, 0, []⟩) ∧
      (run fullDisk oneBlock ⟨none, 0, 0, []⟩).2.scratch ≠ none := by
  have path : join "/mnt/scratch" ".hpc-bench.dat" = "/mnt/scratch/.hpc-bench.dat" := by decide +kernel
  have looped : prepareLoop fullDisk "/mnt/scratch/.hpc-bench.dat" 0 65536 ⟨some [], 2, 0, []⟩ =
      (.error (.io (some "/mnt/scratch/.hpc-bench.dat") "No space left on device (os error 28)"), ⟨some [], 3, 0, []⟩) := by
    rw [prepareLoop]
    rfl
  have prepared : prepareFile fullDisk "/mnt/scratch/.hpc-bench.dat" 65536 ⟨none, 1, 0, []⟩ =
      (.error (.io (some "/mnt/scratch/.hpc-bench.dat") "No space left on device (os error 28)"), ⟨some [], 3, 0, []⟩) := by
    have opened : openTruncated fullDisk "/mnt/scratch/.hpc-bench.dat" ⟨none, 1, 0, []⟩ = (.ok (), ⟨some [], 2, 0, []⟩) := rfl
    refine (bind_ok _ _ _ _ _ opened).trans ?_
    exact bind_error _ _ _ _ _ looped
  rw [← path] at prepared ⊢
  have ended : run fullDisk oneBlock ⟨none, 0, 0, []⟩ = (.error (.io (some (join "/mnt/scratch" ".hpc-bench.dat"))
      "No space left on device (os error 28)"), ⟨some [], 3, 0, []⟩) := by
    have checked : (liftExcept oneBlock.validate : Io Unit) ⟨none, 0, 0, []⟩ = (.ok (), ⟨none, 0, 0, []⟩) := rfl
    have made : touch fullDisk oneBlock.path ⟨none, 0, 0, []⟩ = (.ok (), ⟨none, 1, 0, []⟩) := rfl
    refine (bind_ok _ _ _ _ _ checked).trans ?_
    refine (bind_ok _ _ _ _ _ made).trans ?_
    exact bind_error _ _ _ _ _ prepared
  apply And.intro ended
  rw [ended]
  exact Option.some_ne_none []

end Samples

end Hpc.Bench
