import Mathlib.Algebra.Group.Nat.Defs
import Hpc.Core.Error
import Hpc.Lib.Splice

set_option autoImplicit false

namespace Hpc.Ffi

open Hpc.Core Hpc.Lib

structure Errno where
  code : Nat
  positive : 0 < code
  small : code < 2 ^ 31
deriving DecidableEq, Repr

theorem four_errno : 0 < 4 ∧ 4 < 2 ^ 31 := by decide

def EINTR : Errno := ⟨4, four_errno.1, four_errno.2⟩

-- What a call of pread or pwrite comes to: a transfer, or -1 with errno set.
inductive Transfer (A : Type) where
  | moved (result : A)
  | failed (errno : Errno)
deriving DecidableEq, Repr

-- The two system calls, over whatever the kernel keeps. A read answers the bytes it has put into the buffer, a write how many
-- it has taken from it.
structure Calls (K : Type) where
  pread : Int32 → Nat → Int64 → K → Transfer (List UInt8) × K
  pwrite : Int32 → List UInt8 → Int64 → K → Transfer Nat × K

section Shim

variable {K : Type} (calls : Calls K) (fd : Int32) (offset : Int64)

def negated (errno : Errno) : Int64 := -Int64.ofNat errno.code

-- The loop of hpc_read_block from `done` on; none when it has not ended within so many rounds. The bytes of the buffer from
-- `done` on are overwritten by what arrives.
def readFrom : Nat → K → List UInt8 → Nat → Option (Int64 × List UInt8 × K)
  | 0, _, _, _ => none
  | rounds + 1, kernel, buf, done =>
      if done < buf.length then
        match calls.pread fd (buf.length - done) (offset + Int64.ofNat done) kernel with
        | (.failed errno, next) =>
            if errno = EINTR then readFrom rounds next buf done else some (negated errno, buf, next)
        | (.moved [], next) => some (Int64.ofNat done, buf, next)
        | (.moved (byte :: rest), next) =>
            readFrom rounds next (splice 0 buf done (byte :: rest)) (done + (byte :: rest).length)
      else some (Int64.ofNat done, buf, kernel)

def hpcReadBlock (rounds : Nat) (buf : List UInt8) (kernel : K) : Option (Int64 × List UInt8 × K) :=
  readFrom calls fd offset rounds kernel buf 0

-- The loop of hpc_write_block, which has no case of its own for a transfer of nothing.
def writeFrom (buf : List UInt8) : Nat → K → Nat → Option (Int64 × K)
  | 0, _, _ => none
  | rounds + 1, kernel, done =>
      if done < buf.length then
        match calls.pwrite fd (buf.drop done) (offset + Int64.ofNat done) kernel with
        | (.failed errno, next) => if errno = EINTR then writeFrom buf rounds next done else some (negated errno, next)
        | (.moved n, next) => writeFrom buf rounds next (done + n)
      else some (Int64.ofNat done, kernel)

def hpcWriteBlock (rounds : Nat) (buf : List UInt8) (kernel : K) : Option (Int64 × K) :=
  writeFrom calls fd offset buf rounds kernel 0

end Shim

structure BlockFile where
  fd : Int32

section Wrappers

variable {K : Type} (calls : Calls K) (osError : Int32 → String) (file : BlockFile)

def errnoError (context : String) (ret : Int64) : HpcError := .ffi (context ++ ": " ++ osError (-ret).toInt32)

def BlockFile.readBlockAt (rounds : Nat) (buf : List UInt8) (offset : UInt64) (kernel : K) :
    Option (Except HpcError UInt64 × List UInt8 × K) :=
  (hpcReadBlock calls file.fd offset.toInt64 rounds buf kernel).map fun (ret, filled, next) =>
    (if ret < 0 then .error (errnoError osError "read_block" ret) else .ok ret.toUInt64, filled, next)

def BlockFile.writeBlockAt (rounds : Nat) (buf : List UInt8) (offset : UInt64) (kernel : K) :
    Option (Except HpcError UInt64 × K) :=
  (hpcWriteBlock calls file.fd offset.toInt64 rounds buf kernel).map fun (ret, next) =>
    (if ret < 0 then .error (errnoError osError "write_block" ret) else .ok ret.toUInt64, next)

end Wrappers

-- What the calls do to the file behind a descriptor. A failed call changes nothing. A read moves at least one byte unless it
-- starts at or past the end, a write always does, and no offset is negative nor passes the range of off_t.
structure Posix (K : Type) extends Calls K where
  content : Int32 → K → List UInt8
  pread_keeps : ∀ fd count offset kernel, content fd (pread fd count offset kernel).2 = content fd kernel
  pread_moved : ∀ fd count at_ kernel bytes, 0 < count → at_ < 2 ^ 63 →
    (pread fd count (Int64.ofNat at_) kernel).1 = .moved bytes →
      bytes.length ≤ count ∧ bytes = slice (content fd kernel) at_ bytes.length ∧
        (bytes = [] ↔ (content fd kernel).length ≤ at_)
  pwrite_failed : ∀ fd data offset kernel errno, (pwrite fd data offset kernel).1 = .failed errno →
    content fd (pwrite fd data offset kernel).2 = content fd kernel
  pwrite_moved : ∀ fd data at_ kernel n, data ≠ [] → at_ < 2 ^ 63 →
    (pwrite fd data (Int64.ofNat at_) kernel).1 = .moved n →
      0 < n ∧ n ≤ data.length ∧ at_ + n < 2 ^ 63 ∧
        content fd (pwrite fd data (Int64.ofNat at_) kernel).2 = splice 0 (content fd kernel) at_ (data.take n)
  pwrite_negative : ∀ fd data offset kernel, offset < 0 → ∃ errno, (pwrite fd data offset kernel).1 = .failed errno

section Loops

variable {K : Type} (posix : Posix K) (fd : Int32)

theorem advance (start done : Nat) : Int64.ofNat start + Int64.ofNat done = Int64.ofNat (start + done) :=
  (Int64.ofNat_add start done).symm

theorem write_from_spec (start : Nat) (data : List UInt8) (base : List UInt8) (rounds : Nat) (kernel after : K) (done : Nat)
    (ret : Int64) (within : done ≤ data.length) (inRange : start + done < 2 ^ 63)
    (spliced : posix.content fd kernel = splice 0 base start (data.take done))
    (ran : writeFrom posix.toCalls fd (Int64.ofNat start) data rounds kernel done = some (ret, after)) :
    ∃ reached ≤ data.length, posix.content fd after = splice 0 base start (data.take reached) ∧ start + reached < 2 ^ 63 ∧
      (reached = data.length ∧ ret = Int64.ofNat data.length ∨ ∃ errno, ret = negated errno) := by
  induction rounds generalizing kernel done with
  | zero => cases ran
  | succ rounds ih =>
      rw [writeFrom] at ran
      by_cases more : done < data.length
      · rw [if_pos more, advance] at ran
        have remaining : data.drop done ≠ [] := by
          intro none
          rw [List.drop_eq_nil_iff] at none
          omega
        cases called : posix.pwrite fd (data.drop done) (Int64.ofNat (start + done)) kernel with
        | mk outcome next =>
            rw [called] at ran
            cases outcome with
            | failed errno =>
                have kept := posix.pwrite_failed fd _ _ kernel errno (congrArg Prod.fst called)
                rw [called] at kept
                change (if errno = EINTR then writeFrom posix.toCalls fd (Int64.ofNat start) data rounds next done
                  else some (negated errno, next)) = some (ret, after) at ran
                by_cases interrupted : errno = EINTR
                · rw [if_pos interrupted] at ran
                  exact ih next done within inRange (kept.trans spliced) ran
                · rw [if_neg interrupted] at ran
                  cases ran
                  exact ⟨done, within, kept.trans spliced, inRange, Or.inr ⟨errno, rfl⟩⟩
            | moved n =>
                obtain ⟨positive, most, bound, changed⟩ :=
                  posix.pwrite_moved fd _ (start + done) kernel n remaining inRange (congrArg Prod.fst called)
                rw [called] at changed
                rw [List.length_drop] at most
                have sent : data.take (done + n) = data.take done ++ (data.drop done).take n := List.take_add
                have pieces := splice_append 0 base start (data.take done) ((data.drop done).take n)
                rw [List.length_take, Nat.min_eq_left within] at pieces
                exact ih next (done + n) (by omega) (by omega) (by rw [sent, ← pieces, changed, spliced]) ran
      · rw [if_neg more] at ran
        cases ran
        have all : done = data.length := by omega
        exact ⟨done, within, spliced, inRange, Or.inl ⟨all, all ▸ rfl⟩⟩

theorem read_from_spec (start : Nat) (buf content : List UInt8) (rounds : Nat) (kernel after : K) (done : Nat) (ret : Int64)
    (held filled : List UInt8) (fits : start + buf.length < 2 ^ 63) (within : done ≤ min buf.length (content.length - start))
    (same : posix.content fd kernel = content) (so_far : held = slice content start done ++ buf.drop done)
    (ran : readFrom posix.toCalls fd (Int64.ofNat start) rounds kernel held done = some (ret, filled, after)) :
    posix.content fd after = content ∧
      (ret = Int64.ofNat (min buf.length (content.length - start)) ∧
          filled = slice content start buf.length ++ buf.drop (min buf.length (content.length - start)) ∨
        ∃ errno, ret = negated errno) := by
  have whole : ∀ reached, reached = min buf.length (content.length - start) →
      slice content start reached = slice content start buf.length := by
    intro reached all
    rw [slice, slice, List.take_eq_take_iff, List.length_drop, all]
    omega
  induction rounds generalizing kernel done held with
  | zero => cases ran
  | succ rounds ih =>
      have got : (slice content start done).length = done := by
        rw [slice_length]
        omega
      have size : held.length = buf.length := by
        rw [so_far, List.length_append, got, List.length_drop]
        omega
      rw [readFrom, size] at ran
      by_cases more : done < buf.length
      · rw [if_pos more, advance] at ran
        have kept := posix.pread_keeps fd (buf.length - done) (Int64.ofNat (start + done)) kernel
        have moved := fun bytes => posix.pread_moved fd (buf.length - done) (start + done) kernel bytes (by omega) (by omega)
        cases called : posix.pread fd (buf.length - done) (Int64.ofNat (start + done)) kernel with
        | mk outcome next =>
            rw [called] at ran kept moved
            have still : posix.content fd next = content := kept.trans same
            cases outcome with
            | failed errno =>
                change (if errno = EINTR then readFrom posix.toCalls fd (Int64.ofNat start) rounds next held done
                  else some (negated errno, held, next)) = some (ret, filled, after) at ran
                by_cases interrupted : errno = EINTR
                · rw [if_pos interrupted] at ran
                  exact ih next done held within still so_far ran
                · rw [if_neg interrupted] at ran
                  cases ran
                  exact ⟨still, Or.inr ⟨errno, rfl⟩⟩
            | moved bytes =>
                obtain ⟨most, found, ended⟩ := moved bytes rfl
                rw [same] at found ended
                cases bytes with
                | nil =>
                    cases ran
                    have past := ended.mp rfl
                    have all : done = min buf.length (content.length - start) := by omega
                    exact ⟨still, Or.inl ⟨all ▸ rfl, by rw [so_far, whole done all, ← all]⟩⟩
                | cons byte rest =>
                    have available := congrArg List.length found
                    rw [slice_length] at available
                    refine ih next _ _ (by omega) still ?_ ran
                    have seam := splice_seam 0 (slice content start done) (buf.drop done) (byte :: rest)
                    rw [got, List.drop_drop] at seam
                    rw [so_far, seam, ← slice_append, ← found]
      · rw [if_neg more] at ran
        cases ran
        have all : done = min buf.length (content.length - start) := by omega
        exact ⟨same, Or.inl ⟨all ▸ rfl, by rw [so_far, whole done all, ← all]⟩⟩

theorem write_from_negative (offset : Int64) (data : List UInt8) (rounds : Nat) (kernel after : K) (ret : Int64)
    (negative : offset < 0) (some_data : data ≠ []) (ran : writeFrom posix.toCalls fd offset data rounds kernel 0 = some (ret, after)) :
    ∃ errno, ret = negated errno := by
  induction rounds generalizing kernel with
  | zero => cases ran
  | succ rounds ih =>
      obtain ⟨errno, refused⟩ := posix.pwrite_negative fd data offset kernel negative
      have start : offset + Int64.ofNat 0 = offset := Int64.add_zero offset
      rw [writeFrom, if_pos (List.length_pos_iff.mpr some_data), List.drop_zero, start] at ran
      cases called : posix.pwrite fd data offset kernel with
      | mk outcome next =>
          rw [called] at ran refused
          cases refused
          change (if errno = EINTR then writeFrom posix.toCalls fd offset data rounds next 0
            else some (negated errno, next)) = some (ret, after) at ran
          by_cases interrupted : errno = EINTR
          · rw [if_pos interrupted] at ran
            exact ih next ran
          · rw [if_neg interrupted] at ran
            cases ran
            exact ⟨errno, rfl⟩

end Loops

section Returns

theorem negated_negative (errno : Errno) : negated errno < 0 := by
  have positive := errno.positive
  have small := errno.small
  rw [negated, Int64.lt_iff_toInt_lt, Int64.toInt_neg_ofNat_of_le (by omega), Int64.toInt_zero]
  omega

theorem count_nonnegative (count : Nat) (small : count < 2 ^ 63) : ¬ Int64.ofNat count < 0 := by
  rw [Int64.lt_iff_toInt_lt, Int64.toInt_ofNat_of_lt small, Int64.toInt_zero]
  omega

theorem count_returned (count : Nat) (small : count < 2 ^ 63) : (Int64.ofNat count).toUInt64.toNat = count := by
  rw [Int64.toUInt64_ofNat']
  exact UInt64.toNat_ofNat_of_lt' (Nat.lt_trans small (by decide))

theorem offset_cast (offset : UInt64) : offset.toInt64 = Int64.ofNat offset.toNat := by
  apply Int64.toBitVec_inj.mp
  simp

theorem offset_wraps (offset : UInt64) (large : 2 ^ 63 ≤ offset.toNat) : offset.toInt64 < 0 := by
  have below := offset.toNat_lt
  rw [offset_cast, Int64.lt_iff_toInt_lt, Int64.toInt_ofNat', Int64.toInt_zero, Int.bmod_def, Int64.size]
  omega

end Returns

end Hpc.Ffi
