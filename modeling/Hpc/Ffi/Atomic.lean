import Hpc.Ffi.BlockIo
import Mathlib.Tactic.SplitIfs

set_option autoImplicit false

namespace Hpc.Ffi

open Hpc.Core Hpc.Lib

section Atomicity

variable {K : Type} (posix : Posix K) (osError : Int32 → String) (file : BlockFile)

theorem write_block_at_spec (offset : UInt64) (data : List UInt8) (rounds : Nat) (before after : K) (n : UInt64)
    (ran : file.writeBlockAt posix.toCalls osError rounds data offset before = some (.ok n, after)) :
    n.toNat = data.length ∧
      posix.content file.fd after = splice 0 (posix.content file.fd before) offset.toNat data ∧
      (data ≠ [] → offset.toNat + data.length < 2 ^ 63) := by
  rw [BlockFile.writeBlockAt, hpcWriteBlock, Option.map_eq_some_iff] at ran
  obtain ⟨⟨ret, reached⟩, looped, answer⟩ := ran
  rw [Prod.mk.injEq] at answer
  obtain ⟨returned, rfl⟩ := answer
  by_cases failed : ret < 0
  · rw [if_pos failed] at returned
    cases returned
  · rw [if_neg failed] at returned
    cases returned
    by_cases large : 2 ^ 63 ≤ offset.toNat
    · by_cases none : data = []
      · rw [none] at looped
        cases rounds with
        | zero => cases looped
        | succ rounds =>
            cases looped
            exact ⟨by rw [none]; rfl, by rw [none, splice_nil], fun some_data => absurd none some_data⟩
      · obtain ⟨errno, negative⟩ :=
          write_from_negative posix file.fd _ data rounds before reached ret (offset_wraps offset large) none looped
        exact absurd (negative ▸ negated_negative errno) failed
    · rw [offset_cast] at looped
      obtain ⟨sent, _, spliced, bound, ended⟩ := write_from_spec posix file.fd offset.toNat data
        (posix.content file.fd before) rounds before reached 0 ret (Nat.zero_le _) (by omega) (by rw [List.take_zero, splice_nil])
        looped
      rcases ended with ⟨rfl, rfl⟩ | ⟨errno, negative⟩
      · rw [List.take_length] at spliced
        exact ⟨count_returned _ (by omega), spliced, fun _ => bound⟩
      · exact absurd (negative ▸ negated_negative errno) failed

theorem read_block_at_spec (offset : UInt64) (buf : List UInt8) (rounds : Nat) (before after : K) (n : UInt64)
    (filled : List UInt8) (fits : offset.toNat + buf.length < 2 ^ 63)
    (ran : file.readBlockAt posix.toCalls osError rounds buf offset before = some (.ok n, filled, after)) :
    n.toNat = min buf.length ((posix.content file.fd before).length - offset.toNat) ∧
      filled = slice (posix.content file.fd before) offset.toNat buf.length ++ buf.drop n.toNat ∧
      posix.content file.fd after = posix.content file.fd before := by
  rw [BlockFile.readBlockAt, hpcReadBlock, offset_cast, Option.map_eq_some_iff] at ran
  obtain ⟨⟨ret, held, reached⟩, looped, answer⟩ := ran
  rw [Prod.mk.injEq, Prod.mk.injEq] at answer
  obtain ⟨returned, rfl, rfl⟩ := answer
  obtain ⟨kept, ended⟩ := read_from_spec posix file.fd offset.toNat buf _ rounds before reached 0 ret buf held fits
    (Nat.zero_le _) rfl (by rw [slice, List.take_zero, List.drop_zero, List.nil_append]) looped
  by_cases failed : ret < 0
  · rw [if_pos failed] at returned
    cases returned
  · rw [if_neg failed] at returned
    cases returned
    rcases ended with ⟨rfl, rfl⟩ | ⟨errno, negative⟩
    · have count := count_returned (min buf.length ((posix.content file.fd before).length - offset.toNat)) (by omega)
      exact ⟨count, by rw [count], kept⟩
    · exact absurd (negative ▸ negated_negative errno) failed

structure Atomic (offset : UInt64) (len : Nat) : Prop where
  write : ∀ (data : List UInt8) (rounds : Nat) (before after : K) (n : UInt64), data.length = len →
    file.writeBlockAt posix.toCalls osError rounds data offset before = some (.ok n, after) →
      n.toNat = len ∧ posix.content file.fd after = splice 0 (posix.content file.fd before) offset.toNat data
  read : ∀ (buf filled : List UInt8) (rounds : Nat) (before after : K) (n : UInt64), buf.length = len →
    file.readBlockAt posix.toCalls osError rounds buf offset before = some (.ok n, filled, after) →
      n.toNat = min len ((posix.content file.fd before).length - offset.toNat) ∧
        filled = slice (posix.content file.fd before) offset.toNat n.toNat ++ buf.drop n.toNat ∧
        posix.content file.fd after = posix.content file.fd before
  readBack : ∀ (data buf filled : List UInt8) (sending receiving : Nat) (before between after : K) (written got : UInt64),
    data.length = len → buf.length = len →
    file.writeBlockAt posix.toCalls osError sending data offset before = some (.ok written, between) →
    file.readBlockAt posix.toCalls osError receiving buf offset between = some (.ok got, filled, after) →
      got.toNat = len ∧ filled = data

theorem block_io_atomic (offset : UInt64) (len : Nat) (fits : offset.toNat + len < 2 ^ 63) :
    Atomic posix osError file offset len := by
  refine ⟨?_, ?_, ?_⟩
  · intro data rounds before after n same ran
    subst same
    obtain ⟨count, spliced, _⟩ := write_block_at_spec posix osError file offset data rounds before after n ran
    exact ⟨count, spliced⟩
  · intro buf filled rounds before after n same ran
    subst same
    obtain ⟨count, found, kept⟩ := read_block_at_spec posix osError file offset buf rounds before after n filled fits ran
    refine ⟨count, ?_, kept⟩
    rw [found, count, slice, slice, List.take_eq_take_iff.mpr]
    rw [List.length_drop]
    omega
  · intro data buf filled sending receiving before between after written got whole_data same sent received
    subst whole_data
    obtain ⟨_, spliced, _⟩ := write_block_at_spec posix osError file offset data sending before between written sent
    rw [← same] at fits
    obtain ⟨count, found, _⟩ :=
      read_block_at_spec posix osError file offset buf receiving between after got filled fits received
    have whole : slice (posix.content file.fd between) offset.toNat buf.length = data := by
      rw [same, spliced, slice_splice]
    have lengths := congrArg List.length whole
    rw [slice_length] at lengths
    have all : got.toNat = data.length := count.trans lengths
    apply And.intro all
    rw [found, whole, all, ← same, List.drop_length, List.append_nil]

end Atomicity

section Schedule

structure FileState where
  content : List UInt8
  clock : Nat
deriving DecidableEq

-- What the schedule has in store for a call: a transfer of so many bytes, as far as there are so many to move and one at
-- least, or an error, of which EINTR is one.
inductive Fate where
  | transfers (n : Nat)
  | fails (errno : Errno)

theorem einval_errno : 0 < 22 ∧ 22 < 2 ^ 31 := by decide

def EINVAL : Errno := ⟨22, einval_errno.1, einval_errno.2⟩

theorem efbig_errno : 0 < 27 ∧ 27 < 2 ^ 31 := by decide

def EFBIG : Errno := ⟨27, efbig_errno.1, efbig_errno.2⟩

def scheduledCalls (schedule : Nat → Fate) : Calls FileState where
  pread _ count offset file :=
    match schedule file.clock with
    | .fails errno => (.failed errno, ⟨file.content, file.clock + 1⟩)
    | .transfers n =>
        if offset < 0 then (.failed EINVAL, ⟨file.content, file.clock + 1⟩)
        else (.moved (slice file.content offset.toNatClampNeg (min (max n 1) count)), ⟨file.content, file.clock + 1⟩)
  pwrite _ data offset file :=
    match schedule file.clock with
    | .fails errno => (.failed errno, ⟨file.content, file.clock + 1⟩)
    | .transfers n =>
        if offset < 0 then (.failed EINVAL, ⟨file.content, file.clock + 1⟩)
        else if 2 ^ 63 ≤ offset.toNatClampNeg + min (max n 1) data.length then
          (.failed EFBIG, ⟨file.content, file.clock + 1⟩)
        else
          (.moved (min (max n 1) data.length),
            ⟨splice 0 file.content offset.toNatClampNeg (data.take (min (max n 1) data.length)), file.clock + 1⟩)

theorem scheduled_pread_keeps (schedule : Nat → Fate) (fd : Int32) (count : Nat) (offset : Int64) (file : FileState) :
    ((scheduledCalls schedule).pread fd count offset file).2.content = file.content := by
  rw [scheduledCalls]
  dsimp only
  cases schedule file.clock with
  | fails errno => rfl
  | transfers n =>
      dsimp only
      by_cases negative : offset < 0
      · rw [if_pos negative]
      · rw [if_neg negative]

theorem scheduled_pread_moved (schedule : Nat → Fate) (fd : Int32) (count at_ : Nat) (file : FileState) (bytes : List UInt8)
    (wanted : 0 < count) (inRange : at_ < 2 ^ 63)
    (moved : ((scheduledCalls schedule).pread fd count (Int64.ofNat at_) file).1 = .moved bytes) :
    bytes.length ≤ count ∧ bytes = slice file.content at_ bytes.length ∧ (bytes = [] ↔ file.content.length ≤ at_) := by
  rw [scheduledCalls] at moved
  dsimp only at moved
  cases fate : schedule file.clock with
  | fails errno =>
      rw [fate] at moved
      cases moved
  | transfers n =>
      rw [fate] at moved
      dsimp only at moved
      rw [if_neg (count_nonnegative at_ inRange), Int64.toNatClampNeg_ofNat_of_lt inRange] at moved
      cases moved
      have size := slice_length file.content at_ (min (max n 1) count)
      refine ⟨by omega, ?_, ?_⟩
      · rw [slice, slice, List.take_eq_take_iff, List.length_take, List.length_drop]
        omega
      · rw [← List.length_eq_zero_iff]
        omega

theorem scheduled_pwrite_failed (schedule : Nat → Fate) (fd : Int32) (data : List UInt8) (offset : Int64) (file : FileState)
    (errno : Errno) (failed : ((scheduledCalls schedule).pwrite fd data offset file).1 = .failed errno) :
    ((scheduledCalls schedule).pwrite fd data offset file).2.content = file.content := by
  rw [scheduledCalls] at failed ⊢
  dsimp only at failed ⊢
  cases fate : schedule file.clock with
  | fails errno => rfl
  | transfers n =>
      rw [fate] at failed
      dsimp only at failed ⊢
      split_ifs at failed ⊢
      · rfl
      · rfl

theorem scheduled_pwrite_moved (schedule : Nat → Fate) (fd : Int32) (data : List UInt8) (at_ : Nat) (file : FileState)
    (n : Nat) (some_data : data ≠ []) (inRange : at_ < 2 ^ 63)
    (moved : ((scheduledCalls schedule).pwrite fd data (Int64.ofNat at_) file).1 = .moved n) :
    0 < n ∧ n ≤ data.length ∧ at_ + n < 2 ^ 63 ∧
      ((scheduledCalls schedule).pwrite fd data (Int64.ofNat at_) file).2.content =
        splice 0 file.content at_ (data.take n) := by
  have wanted := List.length_pos_iff.mpr some_data
  rw [scheduledCalls] at moved ⊢
  dsimp only at moved ⊢
  cases fate : schedule file.clock with
  | fails errno =>
      rw [fate] at moved
      cases moved
  | transfers most =>
      rw [fate] at moved
      dsimp only at moved ⊢
      rw [if_neg (count_nonnegative at_ inRange), Int64.toNatClampNeg_ofNat_of_lt inRange] at moved ⊢
      by_cases large : 2 ^ 63 ≤ at_ + min (max most 1) data.length
      · rw [if_pos large] at moved
        cases moved
      · rw [if_neg large] at moved ⊢
        cases moved
        exact ⟨by omega, by omega, by omega, rfl⟩

theorem scheduled_pwrite_negative (schedule : Nat → Fate) (fd : Int32) (data : List UInt8) (offset : Int64) (file : FileState)
    (negative : offset < 0) : ∃ errno, ((scheduledCalls schedule).pwrite fd data offset file).1 = .failed errno := by
  rw [scheduledCalls]
  dsimp only
  cases schedule file.clock with
  | fails errno => exact ⟨errno, rfl⟩
  | transfers n =>
      refine ⟨EINVAL, ?_⟩
      dsimp only
      rw [if_pos negative]

def scheduled (schedule : Nat → Fate) : Posix FileState where
  toCalls := scheduledCalls schedule
  content _ file := file.content
  pread_keeps := scheduled_pread_keeps schedule
  pread_moved := scheduled_pread_moved schedule
  pwrite_failed := scheduled_pwrite_failed schedule
  pwrite_moved := scheduled_pwrite_moved schedule
  pwrite_negative := scheduled_pwrite_negative schedule

def trickle (clock : Nat) : Fate := if clock % 3 = 1 then .fails EINTR else .transfers 1

theorem trickle_atomic : Atomic (scheduled trickle) (fun _ => "error") ⟨3⟩ 4096 8 :=
  block_io_atomic (scheduled trickle) (fun _ => "error") ⟨3⟩ 4096 8 (by decide)

end Schedule

end Hpc.Ffi
