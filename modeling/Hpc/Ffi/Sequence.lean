import Hpc.Ffi.Device

set_option autoImplicit false

namespace Hpc.Ffi

open Hpc.Core Hpc.Lib

inductive Call where
  | write (data : List UInt8) (offset : UInt64)
  | read (buf : List UInt8) (offset : UInt64)
  | sync
deriving DecidableEq

inductive Answer where
  | wrote (n : UInt64)
  | got (n : UInt64) (filled : List UInt8)
  | synced
  | failed (e : HpcError)
deriving DecidableEq

section Calls

variable {K : Type} (native : Native K) (osError : Int32 → String) (rounds : Nat) (file : BlockFile)

def BlockFile.perform (kernel : K) : Call → Option (Answer × K)
  | .write data offset =>
      (file.writeBlockAt native.toCalls osError rounds data offset kernel).map fun (outcome, next) =>
        (match outcome with
          | .ok n => .wrote n
          | .error e => .failed e, next)
  | .read buf offset =>
      (file.readBlockAt native.toCalls osError rounds buf offset kernel).map fun (outcome, filled, next) =>
        (match outcome with
          | .ok n => .got n filled
          | .error e => .failed e, next)
  | .sync =>
      match file.sync native osError kernel with
      | (.ok _, next) => some (.synced, next)
      | (.error e, next) => some (.failed e, next)

def BlockFile.performs : K → List Call → Option (List Answer × K)
  | kernel, [] => some ([], kernel)
  | kernel, call :: rest =>
      (file.perform native osError rounds kernel call).bind fun (answer, next) =>
        (performs next rest).map fun (answers, after) => (answer :: answers, after)

end Calls

-- A file of bytes as such. A call takes effect as a whole, but for a write that fails: of its data some first part is there.
inductive Permits : List UInt8 → Call → Answer → List UInt8 → Prop where
  | wrote (content data : List UInt8) (offset n : UInt64) (all : n.toNat = data.length) :
      Permits content (.write data offset) (.wrote n) (splice 0 content offset.toNat data)
  | torn (content data : List UInt8) (offset : UInt64) (e : HpcError) (sent : Nat) (part : sent ≤ data.length) :
      Permits content (.write data offset) (.failed e) (splice 0 content offset.toNat (data.take sent))
  | got (content buf : List UInt8) (offset n : UInt64) (count : n.toNat = min buf.length (content.length - offset.toNat)) :
      Permits content (.read buf offset) (.got n (slice content offset.toNat buf.length ++ buf.drop n.toNat)) content
  | unread (content buf : List UInt8) (offset : UInt64) (e : HpcError) :
      Permits content (.read buf offset) (.failed e) content
  | synced (content : List UInt8) : Permits content .sync .synced content
  | unsynced (content : List UInt8) (e : HpcError) : Permits content .sync (.failed e) content

inductive PermitsAll : List UInt8 → List Call → List Answer → List UInt8 → Prop where
  | nil (content : List UInt8) : PermitsAll content [] [] content
  | cons (content middle after : List UInt8) (call : Call) (answer : Answer) (calls : List Call) (answers : List Answer)
      (first : Permits content call answer middle) (rest : PermitsAll middle calls answers after) :
      PermitsAll content (call :: calls) (answer :: answers) after

def Call.InRange : Call → Prop
  | .read buf offset => offset.toNat + buf.length < 2 ^ 63
  | _ => True

section Refinement

variable {K : Type} (native : Native K) (osError : Int32 → String) (rounds : Nat) (file : BlockFile)

theorem write_from_keeps (posix : Posix K) (fd : Int32) (offset : Int64) (data : List UInt8) (rounds : Nat)
    (kernel after : K) (ret : Int64) (negative : offset < 0) (some_data : data ≠ [])
    (ran : writeFrom posix.toCalls fd offset data rounds kernel 0 = some (ret, after)) :
    posix.content fd after = posix.content fd kernel := by
  induction rounds generalizing kernel with
  | zero => cases ran
  | succ rounds ih =>
      obtain ⟨errno, refused⟩ := posix.pwrite_negative fd data offset kernel negative
      have kept := posix.pwrite_failed fd data offset kernel errno refused
      have start : offset + Int64.ofNat 0 = offset := Int64.add_zero offset
      rw [writeFrom, if_pos (List.length_pos_iff.mpr some_data), List.drop_zero, start] at ran
      cases called : posix.pwrite fd data offset kernel with
      | mk outcome next =>
          rw [called] at ran refused kept
          cases refused
          change (if errno = EINTR then writeFrom posix.toCalls fd offset data rounds next 0
            else some (negated errno, next)) = some (ret, after) at ran
          by_cases interrupted : errno = EINTR
          · rw [if_pos interrupted] at ran
            exact (ih next ran).trans kept
          · rw [if_neg interrupted] at ran
            cases ran
            exact kept

theorem write_failed_torn (data : List UInt8) (offset : UInt64) (kernel after : K) (e : HpcError)
    (ran : file.writeBlockAt native.toCalls osError rounds data offset kernel = some (.error e, after)) :
    ∃ sent ≤ data.length,
      native.content file.fd after = splice 0 (native.content file.fd kernel) offset.toNat (data.take sent) := by
  rw [BlockFile.writeBlockAt, hpcWriteBlock, Option.map_eq_some_iff] at ran
  obtain ⟨⟨ret, reached⟩, looped, answer⟩ := ran
  rw [Prod.mk.injEq] at answer
  obtain ⟨_, rfl⟩ := answer
  by_cases large : 2 ^ 63 ≤ offset.toNat
  · by_cases none : data = []
    · refine ⟨0, Nat.zero_le _, ?_⟩
      rw [none] at looped
      rw [List.take_zero, splice_nil]
      cases rounds with
      | zero => cases looped
      | succ rounds =>
          cases looped
          rfl
    · refine ⟨0, Nat.zero_le _, ?_⟩
      rw [List.take_zero, splice_nil]
      exact write_from_keeps native.toPosix file.fd _ data rounds kernel reached ret (offset_wraps offset large) none looped
  · rw [offset_cast] at looped
    obtain ⟨sent, part, spliced, _⟩ := write_from_spec native.toPosix file.fd offset.toNat data
      (native.content file.fd kernel) rounds kernel reached 0 ret (Nat.zero_le _) (by omega)
      (by rw [List.take_zero, splice_nil]) looped
    exact ⟨sent, part, spliced⟩

theorem read_failed_keeps (buf filled : List UInt8) (offset : UInt64) (kernel after : K) (e : HpcError)
    (fits : offset.toNat + buf.length < 2 ^ 63)
    (ran : file.readBlockAt native.toCalls osError rounds buf offset kernel = some (.error e, filled, after)) :
    native.content file.fd after = native.content file.fd kernel := by
  rw [BlockFile.readBlockAt, hpcReadBlock, offset_cast, Option.map_eq_some_iff] at ran
  obtain ⟨⟨ret, held, reached⟩, looped, answer⟩ := ran
  rw [Prod.mk.injEq, Prod.mk.injEq] at answer
  obtain ⟨_, _, rfl⟩ := answer
  exact (read_from_spec native.toPosix file.fd offset.toNat buf _ rounds kernel reached 0 ret buf held fits
    (Nat.zero_le _) rfl (by rw [slice, List.take_zero, List.drop_zero, List.nil_append]) looped).1

theorem perform_permits (call : Call) (inRange : call.InRange) (kernel after : K) (answer : Answer)
    (ran : file.perform native osError rounds kernel call = some (answer, after)) :
    Permits (native.content file.fd kernel) call answer (native.content file.fd after) := by
  cases call with
  | write data offset =>
      obtain ⟨⟨outcome, next⟩, called, same⟩ := Option.map_eq_some_iff.mp ran
      cases outcome with
      | ok n =>
          cases same
          obtain ⟨all, spliced, _⟩ :=
            write_block_at_spec native.toPosix osError file offset data rounds kernel _ n called
          rw [spliced]
          exact .wrote _ data offset n all
      | error e =>
          cases same
          obtain ⟨sent, part, spliced⟩ := write_failed_torn native osError rounds file data offset kernel _ e called
          rw [spliced]
          exact .torn _ data offset e sent part
  | read buf offset =>
      obtain ⟨⟨outcome, filled, next⟩, called, same⟩ := Option.map_eq_some_iff.mp ran
      cases outcome with
      | ok n =>
          cases same
          obtain ⟨count, found, kept⟩ :=
            read_block_at_spec native.toPosix osError file offset buf rounds kernel _ n filled inRange called
          rw [kept, found]
          exact .got _ buf offset n count
      | error e =>
          cases same
          rw [read_failed_keeps native osError rounds file buf filled offset kernel _ e inRange called]
          exact .unread _ buf offset e
  | sync =>
      have kept := sync_keeps native osError file kernel
      rw [BlockFile.perform] at ran
      cases synced : file.sync native osError kernel with
      | mk outcome next =>
          rw [synced] at ran kept
          cases outcome with
          | ok done =>
              cases ran
              rw [kept]
              exact .synced _
          | error e =>
              cases ran
              rw [kept]
              exact .unsynced _ e

-- Whatever the schedule of short transfers, interruptions and errors, an open file behaves as a file of bytes.
theorem file_refines_bytes (calls : List Call) (inRange : ∀ call ∈ calls, call.InRange) (kernel after : K)
    (answers : List Answer) (ran : file.performs native osError rounds kernel calls = some (answers, after)) :
    PermitsAll (native.content file.fd kernel) calls answers (native.content file.fd after) := by
  induction calls generalizing kernel answers with
  | nil =>
      cases ran
      exact .nil _
  | cons call rest ih =>
      obtain ⟨⟨answer, next⟩, first, ran⟩ := Option.bind_eq_some_iff.mp ran
      obtain ⟨⟨later, reached⟩, others, same⟩ := Option.map_eq_some_iff.mp ran
      cases same
      have one := perform_permits native osError rounds file call (inRange call (by simp)) kernel next answer first
      have more := ih (fun call member => inRange call (by simp [member])) next later others
      exact .cons _ _ _ call answer rest later one more

end Refinement

section Survival

def Call.Spares (start len : Nat) : Call → Prop
  | .write data offset => start + len ≤ offset.toNat ∨ offset.toNat + data.length ≤ start
  | _ => True

structure Stores (content : List UInt8) (start : Nat) (block : List UInt8) : Prop where
  inside : start + block.length ≤ content.length
  there : slice content start block.length = block

theorem stores_spliced (content : List UInt8) (start : Nat) (block data : List UInt8) (offset : Nat)
    (stores : Stores content start block)
    (apart : start + block.length ≤ offset ∨ offset + data.length ≤ start) :
    Stores (splice 0 content offset data) start block := by
  refine ⟨Nat.le_trans stores.inside (splice_grows 0 content offset data), ?_⟩
  rw [slice_splice_apart 0 content offset data start block.length stores.inside apart]
  exact stores.there

theorem stores_written (content : List UInt8) (start : Nat) (block : List UInt8) (some_data : block ≠ []) :
    Stores (splice 0 content start block) start block := by
  refine ⟨?_, slice_splice 0 content start block⟩
  rw [splice_length 0 content start block some_data]
  exact Nat.le_max_right _ _

theorem permits_stores (content after : List UInt8) (call : Call) (answer : Answer) (start : Nat) (block : List UInt8)
    (permits : Permits content call answer after) (stores : Stores content start block)
    (spares : call.Spares start block.length) : Stores after start block := by
  cases permits with
  | wrote data offset n all => exact stores_spliced content start block data offset.toNat stores spares
  | torn data offset e sent part =>
      apply stores_spliced content start block (data.take sent) offset.toNat stores
      rw [List.length_take, Nat.min_eq_left part]
      exact spares.imp id fun before => Nat.le_trans (Nat.add_le_add_left part _) before
  | _ => exact stores

theorem permits_all_stores (content after : List UInt8) (calls : List Call) (answers : List Answer) (start : Nat)
    (block : List UInt8) (permits : PermitsAll content calls answers after) (stores : Stores content start block)
    (spares : ∀ call ∈ calls, call.Spares start block.length) : Stores after start block := by
  induction permits with
  | nil content => exact stores
  | cons content middle after call answer calls answers first rest ih =>
      have kept := permits_stores content middle call answer start block first stores (spares call (by simp))
      exact ih kept fun call member => spares call (by simp [member])

theorem permits_all_append (content after : List UInt8) (front back : List Call) (answers : List Answer)
    (permits : PermitsAll content (front ++ back) answers after) :
    ∃ first second middle, PermitsAll content front first middle ∧ PermitsAll middle back second after ∧
      answers = first ++ second := by
  induction front generalizing content answers with
  | nil => exact ⟨[], answers, content, .nil content, permits, rfl⟩
  | cons call rest ih =>
      cases permits with
      | cons _ middle _ _ answer _ later one others =>
          obtain ⟨first, second, reached, before, behind, joined⟩ := ih middle later others
          exact ⟨answer :: first, second, reached, .cons content middle reached call answer rest first one before, behind,
            congrArg (answer :: ·) joined⟩

theorem stores_read (content after block buf filled : List UInt8) (offset n : UInt64) (same : buf.length = block.length)
    (stores : Stores content offset.toNat block) (permits : Permits content (.read buf offset) (.got n filled) after) :
    n.toNat = block.length ∧ filled = block := by
  cases permits with
  | got _ _ _ count =>
      have inside := stores.inside
      have whole : n.toNat = block.length := by omega
      refine ⟨whole, ?_⟩
      rw [same, stores.there, whole, ← same, List.drop_length, List.append_nil]

theorem empty_read (content after buf filled : List UInt8) (offset n : UInt64) (none : buf = [])
    (permits : Permits content (.read buf offset) (.got n filled) after) : n.toNat = 0 ∧ filled = [] := by
  cases permits with
  | got _ _ _ count =>
      subst none
      refine ⟨count.trans (Nat.zero_min _), ?_⟩
      simp [slice]

variable {K : Type} (native : Native K) (osError : Int32 → String) (rounds : Nat) (file : BlockFile)

-- A block that was written with success is read back, unless something was written over it since: other writes, failed ones
-- included, leave it alone.
theorem written_block_survives (block buf filled : List UInt8) (offset written n : UInt64) (between : List Call)
    (same : buf.length = block.length) (fits : offset.toNat + buf.length < 2 ^ 63)
    (inRange : ∀ call ∈ between, call.InRange) (spares : ∀ call ∈ between, call.Spares offset.toNat block.length)
    (kernel after : K) (answers : List Answer)
    (ran : file.performs native osError rounds kernel (.write block offset :: (between ++ [.read buf offset])) =
      some (.wrote written :: (answers ++ [.got n filled]), after)) :
    n.toNat = block.length ∧ filled = block := by
  have all_in_range : ∀ call ∈ Call.write block offset :: (between ++ [.read buf offset]), call.InRange := by
    intro call member
    rcases List.mem_cons.mp member with rfl | later
    · trivial
    · rcases List.mem_append.mp later with inner | last
      · exact inRange call inner
      · rw [List.mem_singleton.mp last]
        exact fits
  cases file_refines_bytes native osError rounds file _ all_in_range kernel after _ ran with
  | cons _ middle _ _ _ _ _ first rest =>
      obtain ⟨early, last, reached, inner, final, joined⟩ := permits_all_append middle _ between _ _ rest
      cases final with
      | cons _ _ _ _ answer _ _ one ended =>
          cases ended
          have read := List.append_inj_right' joined rfl
          rw [List.singleton_inj] at read
          rw [← read] at one
          by_cases empty : block = []
          · have nothing : buf = [] := List.length_eq_zero_iff.mp (by rw [same, empty]; rfl)
            rw [empty]
            exact empty_read reached _ buf filled offset n nothing one
          · cases first with
            | wrote _ _ _ whole =>
                have stored := stores_written (native.content file.fd kernel) offset.toNat block empty
                have kept := permits_all_stores _ reached between early offset.toNat block inner stored spares
                exact stores_read reached _ block buf filled offset n same kept one

end Survival

section Samples

def cramped (clock : Nat) : Fate := if clock = 2 then .fails EINTR else if clock = 5 then .fails EFBIG else .transfers 1

def crampedDevice : Native FileState where
  toPosix := scheduled cramped
  createDirAll _ file := (none, file)
  openAt _ _ file := (.moved 3, file)
  fsync _ file := (none, file)
  unlink _ file := ⟨[], file.clock⟩
  fsync_keeps _ _ := rfl

def sampleCalls : List Call := [.write [1, 2, 3] 0, .write [9, 9] 8, .sync, .read [0, 0, 0] 0]

def tooLarge : Answer := .failed (.ffi "write_block: File too large (os error 27)")

def samplePerforms : Option (List Answer × FileState) :=
  BlockFile.performs crampedDevice (fun _ => "File too large (os error 27)") 8 ⟨3⟩ ⟨[], 0⟩ sampleCalls

theorem sample_performs : samplePerforms =
    some ([.wrote 3, tooLarge, .synced, .got 3 [1, 2, 3]], ⟨[1, 2, 3, 0, 0, 0, 0, 0, 9], 9⟩) := by decide +kernel

theorem sample_refines_bytes : ∃ answers after, samplePerforms = some (answers, after) ∧
    PermitsAll [] sampleCalls answers after.content :=
  ⟨_, _, sample_performs, file_refines_bytes crampedDevice _ 8 ⟨3⟩ sampleCalls (by simp [sampleCalls, Call.InRange])
    ⟨[], 0⟩ _ _ sample_performs⟩

theorem sample_block_survives : ∃ answers filled after, samplePerforms = some (answers ++ [.got 3 filled], after) ∧
    filled = [1, 2, 3] := by
  have read := written_block_survives crampedDevice (fun _ => "File too large (os error 27)") 8 ⟨3⟩ [1, 2, 3] [0, 0, 0]
    [1, 2, 3] 0 3 3 [.write [9, 9] 8, .sync] rfl (by decide) (by simp [Call.InRange]) (by simp [Call.Spares]) ⟨[], 0⟩ _
    [tooLarge, .synced] sample_performs
  exact ⟨[.wrote 3, tooLarge, .synced], _, _, sample_performs, read.2⟩

end Samples

end Hpc.Ffi
