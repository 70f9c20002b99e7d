import Hpc.Bench.Bounds
import Hpc.Ffi.Device

set_option autoImplicit false

namespace Hpc.Bench

open Hpc.Core Hpc.Ffi Hpc.Lib

structure RawOptions where
  path : String
  blockSize : UInt64
  fileSize : UInt64
  fsync : Bool

structure RawAccess where
  kind : AccessKind
  offset : UInt64
  len : Nat
  answered : Option UInt64
deriving DecidableEq, Repr

structure Channel (K : Type) where
  kernel : K
  log : List RawAccess

-- A run ends with an error, or it has not ended within the rounds given to each transfer.
inductive Halt where
  | failed (error : HpcError)
  | unfinished
deriving DecidableEq, Repr

abbrev Raw (K A : Type) := Fallible (Channel K) Halt A

section Runner

variable {K : Type} (native : Native K) (osError : Int32 → String) (rounds : Nat) (histogram : Option String)

def rawStep {A : Type} (call : K → Except HpcError A × K) : Raw K A := fun channel =>
  match call channel.kernel with
  | (.ok result, next) => (.ok result, { channel with kernel := next })
  | (.error error, next) => (.error (.failed error), { channel with kernel := next })

def transfer (kind : AccessKind) (offset : UInt64) (len : Nat) (call : K → Option (Except HpcError UInt64 × K)) : Raw K Unit :=
  fun channel =>
    match call channel.kernel with
    | some (.ok n, next) => (.ok (), ⟨next, channel.log ++ [⟨kind, offset, len, some n⟩]⟩)
    | some (.error error, next) => (.error (.failed error), ⟨next, channel.log ++ [⟨kind, offset, len, none⟩]⟩)
    | none => (.error .unfinished, ⟨channel.kernel, channel.log ++ [⟨kind, offset, len, none⟩]⟩)

def phaseLoop (op : UInt64 → Raw K Unit) : Nat → UInt64 → Histogram → Raw K Histogram
  | 0, _, hist => pure hist
  | left + 1, i, hist => do
      op i
      phaseLoop op left (i + 1) (record hist)

def rawHistogram : Raw K Histogram :=
  match histogram with
  | none => pure ⟨0⟩
  | some text => throw (.failed (.bench ("histogram init: " ++ text)))

def phase (pattern : IoPattern) (blockSize blocks : UInt64) (op : UInt64 → Raw K Unit) : Raw K BenchResult := do
  let hist ← rawHistogram histogram
  let hist ← phaseLoop op blocks.toNat 0 hist
  pure (summarise pattern blockSize blocks hist)

def writePhaseOp (opts : RawOptions) (handle : BlockFile) (block : List UInt8) (i : UInt64) : Raw K Unit := do
  let offset := i * opts.blockSize
  transfer .write offset block.length (handle.writeBlockAt native.toCalls osError rounds block offset)
  if opts.fsync then rawStep (handle.sync native osError) else pure ()

-- The bytes of one read are overwritten by the next, and never looked at.
def readPhaseOp (opts : RawOptions) (handle : BlockFile) (buf : List UInt8) (i : UInt64) : Raw K Unit := do
  let offset := i * opts.blockSize
  transfer .read offset buf.length fun kernel =>
    (handle.readBlockAt native.toCalls osError rounds buf offset kernel).map fun (answer, _, next) => (answer, next)

def runInner (file : String) (opts : RawOptions) : Raw K (List BenchResult) := do
  let handle ← rawStep (BlockFile.openPath native osError file true)
  let blocks := max (opts.fileSize / opts.blockSize) 1
  let block := fillBlock opts.blockSize.toNat
  let write ← phase histogram .sequentialWrite opts.blockSize blocks (writePhaseOp native osError rounds opts handle block)
  rawStep (handle.sync native osError)
  let buf := List.replicate opts.blockSize.toNat 0
  let read ← phase histogram .sequentialRead opts.blockSize blocks (readPhaseOp native osError rounds opts handle buf)
  pure [write, read]

def runRaw (opts : RawOptions) : Raw K (List BenchResult) := fun channel =>
  if opts.blockSize = 0 then (.error (.failed (.bench "block_size must be non-zero")), channel)
  else if opts.fileSize < opts.blockSize then
    (.error (.failed (.bench "file_size must be at least block_size")), channel)
  else
    match native.createDirAll opts.path channel.kernel with
    | (some source, next) => (.error (.failed (.io (some opts.path) source)), { channel with kernel := next })
    | (none, next) =>
        let file := join opts.path ".hpc-bench-ffi.dat"
        let (outcome, after) := runInner native osError rounds histogram file opts { channel with kernel := next }
        (outcome, { after with kernel := native.unlink file after.kernel })

end Runner

section Bounds

variable {K : Type} (native : Native K) (osError : Int32 → String) (rounds : Nat) (histogram : Option String)
variable (opts : RawOptions)

def RawOptions.blocks : UInt64 := max (opts.fileSize / opts.blockSize) 1

structure RawWithin (access : RawAccess) : Prop where
  len : access.len = opts.blockSize.toNat
  range : access.offset.toNat + access.len ≤ opts.fileSize.toNat
  whole : ∀ n, access.answered = some n → n.toNat = access.len

def RawWhole (result : BenchResult) : Prop :=
  result.totalBytes = opts.blocks * opts.blockSize ∧ result.samples = opts.blocks.toNat

def full (kind : AccessKind) (i : UInt64) : RawAccess := ⟨kind, i * opts.blockSize, opts.blockSize.toNat, some opts.blockSize⟩

def Adds (log : List RawAccess) (channel : Channel K) : Prop :=
  ∃ last, channel.log = log ++ last ∧ ∀ access ∈ last, RawWithin opts access

theorem adds_none (channel : Channel K) : Adds opts channel.log channel :=
  ⟨[], (List.append_nil _).symm, fun _ absent => by cases absent⟩

theorem adds_append (log : List RawAccess) (access : RawAccess) (channel : Channel K) (within : RawWithin opts access)
    (later : Adds opts (log ++ [access]) channel) : Adds opts log channel := by
  obtain ⟨last, logged, all⟩ := later
  refine ⟨access :: last, by rw [logged, List.append_assoc]; rfl, ?_⟩
  intro other member
  rcases List.mem_cons.mp member with rfl | listed
  · exact within
  · exact all other listed

theorem block_within (exact_sizes : Exact opts.fileSize opts.blockSize opts.blocks) (kind : AccessKind) (i : UInt64)
    (below : i < opts.blocks) (answered : Option UInt64) (whole : ∀ n, answered = some n → n.toNat = opts.blockSize.toNat) :
    RawWithin opts ⟨kind, i * opts.blockSize, opts.blockSize.toNat, answered⟩ := by
  obtain ⟨product, inside⟩ := exact_sizes.offset i below
  exact ⟨rfl, (product ▸ inside : (i * opts.blockSize).toNat + _ ≤ _), whole⟩

structure Covers (fd : Int32) (count : Nat) (kernel : K) : Prop where
  long : count * opts.blockSize.toNat ≤ (native.content fd kernel).length
  inRange : count * opts.blockSize.toNat < 2 ^ 63

theorem sync_covers (file : BlockFile) (count : Nat) (log : List RawAccess) :
    Contract (fun channel => Covers native opts file.fd count channel.kernel ∧ channel.log = log)
      (rawStep (file.sync native osError))
      (fun _ channel => Covers native opts file.fd count channel.kernel ∧ channel.log = log)
      (fun _ channel => Adds opts log channel) := by
  intro channel reached
  obtain ⟨covers, rfl⟩ := reached
  have kept := sync_keeps native osError file channel.kernel
  rw [rawStep]
  cases synced : file.sync native osError channel.kernel with
  | mk outcome next =>
      rw [synced] at kept
      cases outcome with
      | ok done => exact ⟨⟨kept ▸ covers.long, covers.inRange⟩, rfl⟩
      | error error => exact adds_none opts ⟨next, channel.log⟩

theorem transfer_contract (exact_sizes : Exact opts.fileSize opts.blockSize opts.blocks) (kind : AccessKind) (i : UInt64)
    (below : i < opts.blocks) (call : K → Option (Except HpcError UInt64 × K)) (before after : K → Prop)
    (log : List RawAccess)
    (answers : ∀ kernel next n, before kernel → call kernel = some (.ok n, next) → n.toNat = opts.blockSize.toNat ∧ after next) :
    Contract (fun channel => before channel.kernel ∧ channel.log = log)
      (transfer kind (i * opts.blockSize) opts.blockSize.toNat call)
      (fun _ channel => after channel.kernel ∧ channel.log = log ++ [full opts kind i])
      (fun _ channel => Adds opts log channel) := by
  intro channel reached
  obtain ⟨start, rfl⟩ := reached
  have unanswered : ∀ kernel, Adds opts channel.log
      (⟨kernel, channel.log ++ [⟨kind, i * opts.blockSize, opts.blockSize.toNat, none⟩]⟩ : Channel K) := fun kernel =>
    adds_append opts channel.log _ _ (block_within opts exact_sizes kind i below none fun n absent => by cases absent)
      (adds_none opts _)
  rw [transfer]
  cases called : call channel.kernel with
  | none => exact unanswered channel.kernel
  | some answer =>
      obtain ⟨outcome, next⟩ := answer
      cases outcome with
      | error error => exact unanswered next
      | ok n =>
          obtain ⟨count, reached⟩ := answers channel.kernel next n start called
          rw [UInt64.toNat_inj] at count
          subst count
          exact ⟨reached, rfl⟩

theorem write_op_covers (exact_sizes : Exact opts.fileSize opts.blockSize opts.blocks) (some_bytes : 0 < opts.blockSize.toNat)
    (handle : BlockFile) (i : UInt64) (below : i < opts.blocks) (log : List RawAccess) :
    Contract (fun channel => Covers native opts handle.fd i.toNat channel.kernel ∧ channel.log = log)
      (writePhaseOp native osError rounds opts handle (fillBlock opts.blockSize.toNat) i)
      (fun _ channel => Covers native opts handle.fd (i.toNat + 1) channel.kernel ∧ channel.log = log ++ [full opts .write i])
      (fun _ channel => Adds opts log channel) := by
  have size : (fillBlock opts.blockSize.toNat).length = opts.blockSize.toNat := by
    rw [fillBlock, List.length_map, List.length_range]
  have some_data : fillBlock opts.blockSize.toNat ≠ [] := by
    rw [← List.length_pos_iff, size]
    exact some_bytes
  obtain ⟨product, _⟩ := exact_sizes.offset i below
  rw [writePhaseOp, size]
  apply contract_bind _ _ _ (fun _ channel => Covers native opts handle.fd (i.toNat + 1) channel.kernel ∧
    channel.log = log ++ [full opts .write i])
  · apply transfer_contract opts exact_sizes .write i below _ (Covers native opts handle.fd i.toNat)
    intro kernel next n covers sent
    obtain ⟨count, spliced, bound⟩ := write_block_at_spec native.toPosix osError handle _ _ rounds kernel next n sent
    have reached := bound some_data
    rw [size] at count reached
    rw [product] at spliced reached
    refine ⟨count, ?_, ?_⟩
    · rw [spliced, splice_length _ _ _ _ some_data, size, Nat.succ_mul]
      exact Nat.le_max_right _ _
    · rw [Nat.succ_mul]
      exact reached
  · intro _
    cases opts.fsync with
    | true =>
        apply contract_fails (sync_covers native osError opts handle _ _)
        exact fun _ channel later => adds_append opts log _ channel
          (block_within opts exact_sizes .write i below _ fun n same => by cases same; rfl) later
    | false => exact contract_pure _ _ _ _ fun _ there => there

theorem read_op_covers (exact_sizes : Exact opts.fileSize opts.blockSize opts.blocks) (handle : BlockFile) (i : UInt64)
    (below : i < opts.blocks) (log : List RawAccess) :
    Contract (fun channel => Covers native opts handle.fd opts.blocks.toNat channel.kernel ∧ channel.log = log)
      (readPhaseOp native osError rounds opts handle (List.replicate opts.blockSize.toNat 0) i)
      (fun _ channel => Covers native opts handle.fd opts.blocks.toNat channel.kernel ∧ channel.log = log ++ [full opts .read i])
      (fun _ channel => Adds opts log channel) := by
  have size : (List.replicate opts.blockSize.toNat (0 : UInt8)).length = opts.blockSize.toNat := List.length_replicate
  obtain ⟨product, _⟩ := exact_sizes.offset i below
  have next : (i.toNat + 1) * opts.blockSize.toNat ≤ opts.blocks.toNat * opts.blockSize.toNat :=
    Nat.mul_le_mul_right _ (UInt64.lt_iff_toNat_lt.mp below)
  rw [Nat.succ_mul] at next
  rw [readPhaseOp, size]
  apply transfer_contract opts exact_sizes .read i below _ (Covers native opts handle.fd opts.blocks.toNat)
  intro kernel after n covers received
  rw [Option.map_eq_some_iff] at received
  obtain ⟨⟨answer, filled, reached⟩, called, same⟩ := received
  rw [Prod.mk.injEq] at same
  obtain ⟨rfl, rfl⟩ := same
  have long := covers.long
  have inRange := covers.inRange
  obtain ⟨count, _, kept⟩ := read_block_at_spec native.toPosix osError handle _ _ rounds kernel reached n filled
    (by rw [size, product]; omega) called
  rw [size, product] at count
  refine ⟨by omega, ?_, inRange⟩
  rw [kept]
  exact long

theorem phase_loop_full (exact_sizes : Exact opts.fileSize opts.blockSize opts.blocks) (kind : AccessKind)
    (op : UInt64 → Raw K Unit) (inv : Nat → K → Prop)
    (operates : ∀ i log, i < opts.blocks → Contract (fun channel => inv i.toNat channel.kernel ∧ channel.log = log) (op i)
      (fun _ channel => inv (i.toNat + 1) channel.kernel ∧ channel.log = log ++ [full opts kind i])
      (fun _ channel => Adds opts log channel))
    (left : Nat) (i : UInt64) (hist : Histogram) (log : List RawAccess) (within : i.toNat + left ≤ opts.blocks.toNat) :
    Contract (fun channel => inv i.toNat channel.kernel ∧ channel.log = log) (phaseLoop op left i hist)
      (fun recorded channel => recorded.len = hist.len + left ∧ inv (i.toNat + left) channel.kernel ∧
        channel.log = log ++ (List.range left).map fun j => full opts kind (i + UInt64.ofNat j))
      (fun _ channel => Adds opts log channel) := by
  induction left generalizing i hist log with
  | zero =>
      apply contract_pure
      intro channel reached
      obtain ⟨holds, logged⟩ := reached
      exact ⟨rfl, holds, by simpa using logged⟩
  | succ left ih =>
      have below : i < opts.blocks := UInt64.lt_iff_toNat_lt.mpr (by omega)
      have next : (i + 1).toNat = i.toNat + 1 := by
        have bound := opts.blocks.toNat_lt
        rw [UInt64.toNat_add, UInt64.toNat_one, Nat.mod_eq_of_lt (by omega)]
      have rounds := ih (i + 1) (record hist) (log ++ [full opts kind i]) (by omega)
      rw [next] at rounds
      apply contract_bind _ _ _ _ _ _ (operates i log below)
      intro _
      apply contract_ends rounds
      · intro recorded channel reached
        obtain ⟨samples, holds, logged⟩ := reached
        have counted : recorded.len = hist.len + (left + 1) := by
          rw [samples, record_len]
          omega
        refine ⟨counted, by rw [Nat.add_right_comm] at holds; exact holds, ?_⟩
        rw [logged, List.range_succ_eq_map, List.map_cons, List.map_map, List.append_assoc]
        refine congrArg (log ++ ·) (congrArg₂ List.cons ?_ (List.map_congr_left fun j _ => ?_))
        · exact congrArg (full opts kind) (UInt64.add_zero i).symm
        · rw [Function.comp_apply, Nat.succ_eq_add_one, UInt64.ofNat_add, UInt64.add_assoc, UInt64.add_comm 1]
          rfl
      · intro _ channel later
        exact adds_append opts log _ channel (block_within opts exact_sizes kind i below _ fun n same => by cases same; rfl)
          later

def sweep (kind : AccessKind) : List RawAccess := (List.range opts.blocks.toNat).map fun j => full opts kind (UInt64.ofNat j)

theorem sweep_within (exact_sizes : Exact opts.fileSize opts.blockSize opts.blocks) (kind : AccessKind) :
    ∀ access ∈ sweep opts kind, RawWithin opts access := by
  intro access member
  obtain ⟨j, listed, rfl⟩ := List.mem_map.mp member
  have below := List.mem_range.mp listed
  have bound := opts.blocks.toNat_lt
  refine block_within opts exact_sizes kind _ ?_ _ fun n same => by cases same; rfl
  rw [UInt64.lt_iff_toNat_lt, UInt64.toNat_ofNat_of_lt' (by rw [UInt64.size]; omega)]
  exact below

theorem phase_full (exact_sizes : Exact opts.fileSize opts.blockSize opts.blocks) (pattern : IoPattern) (kind : AccessKind)
    (op : UInt64 → Raw K Unit) (inv : Nat → K → Prop)
    (operates : ∀ i log, i < opts.blocks → Contract (fun channel => inv i.toNat channel.kernel ∧ channel.log = log) (op i)
      (fun _ channel => inv (i.toNat + 1) channel.kernel ∧ channel.log = log ++ [full opts kind i])
      (fun _ channel => Adds opts log channel))
    (log : List RawAccess) :
    Contract (fun channel => inv 0 channel.kernel ∧ channel.log = log)
      (phase histogram pattern opts.blockSize opts.blocks op)
      (fun result channel => RawWhole opts result ∧ inv opts.blocks.toNat channel.kernel ∧
        channel.log = log ++ sweep opts kind)
      (fun _ channel => Adds opts log channel) := by
  have looped := phase_loop_full opts exact_sizes kind op inv operates opts.blocks.toNat 0 ⟨0⟩ log (by simp)
  rw [UInt64.toNat_zero, Nat.zero_add] at looped
  have started : ∀ channel : Channel K, channel.log = log → Adds opts log channel :=
    fun channel logged => logged ▸ adds_none opts channel
  have opened : Contract (fun channel : Channel K => inv 0 channel.kernel ∧ channel.log = log)
      (do
        let hist ← rawHistogram histogram
        phaseLoop op opts.blocks.toNat 0 hist)
      (fun recorded channel => recorded.len = opts.blocks.toNat ∧ inv opts.blocks.toNat channel.kernel ∧
        channel.log = log ++ (List.range opts.blocks.toNat).map fun j => full opts kind (0 + UInt64.ofNat j))
      (fun _ channel => Adds opts log channel) := by
    cases histogram with
    | none => exact looped
    | some text => exact contract_throw _ _ _ _ fun channel there => started channel there.2
  have whole := contract_bind _ _ (fun hist => pure (summarise pattern opts.blockSize opts.blocks hist)) _
    (fun result channel => RawWhole opts result ∧ inv opts.blocks.toNat channel.kernel ∧
      channel.log = log ++ sweep opts kind) _ opened
  simp only [bind_assoc] at whole
  apply whole
  intro recorded
  apply contract_pure
  intro channel reached
  obtain ⟨samples, holds, logged⟩ := reached
  refine ⟨⟨rfl, samples⟩, holds, ?_⟩
  rw [logged, sweep]
  refine congrArg (log ++ ·) (List.map_congr_left fun j _ => ?_)
  rw [UInt64.zero_add]

theorem run_inner_full (exact_sizes : Exact opts.fileSize opts.blockSize opts.blocks) (some_bytes : 0 < opts.blockSize.toNat)
    (file : String) :
    Contract (fun channel : Channel K => channel.log = []) (runInner native osError rounds histogram file opts)
      (fun results channel => (∀ result ∈ results, RawWhole opts result) ∧
        channel.log = sweep opts .write ++ sweep opts .read)
      (fun _ channel => Adds opts [] channel) := by
  have swept := fun kind => sweep_within opts exact_sizes kind
  apply contract_bind _ _ _ (fun handle channel => Covers native opts handle.fd 0 channel.kernel ∧ channel.log = [])
  · intro channel none
    rw [rawStep]
    cases BlockFile.openPath native osError file true channel.kernel with
    | mk outcome next =>
        cases outcome with
        | ok handle => exact ⟨⟨by rw [Nat.zero_mul]; exact Nat.zero_le _, by rw [Nat.zero_mul]; decide⟩, none⟩
        | error error => exact none ▸ adds_none opts (⟨next, channel.log⟩ : Channel K)
  · intro handle
    apply contract_bind _ _ _ _ _ _ (phase_full histogram opts exact_sizes .sequentialWrite .write
      (writePhaseOp native osError rounds opts handle (fillBlock opts.blockSize.toNat)) (Covers native opts handle.fd)
      (fun i log below => write_op_covers native osError rounds opts exact_sizes some_bytes handle i below log) [])
    intro write channel reached
    obtain ⟨total, written⟩ := reached
    rw [List.nil_append] at written
    have ended : ∀ channel : Channel K, Adds opts (sweep opts .write) channel → Adds opts [] channel := by
      intro channel reached
      obtain ⟨last, logged, all⟩ := reached
      refine ⟨sweep opts .write ++ last, by rw [logged, List.nil_append], ?_⟩
      intro access member
      rcases List.mem_append.mp member with first | second
      · exact swept .write access first
      · exact all access second
    have rest : Contract (fun channel => Covers native opts handle.fd opts.blocks.toNat channel.kernel ∧
          channel.log = sweep opts .write)
        (do
          rawStep (handle.sync native osError)
          let read ← phase histogram .sequentialRead opts.blockSize opts.blocks
            (readPhaseOp native osError rounds opts handle (List.replicate opts.blockSize.toNat 0))
          pure [write, read])
        (fun results channel => (∀ result ∈ results, RawWhole opts result) ∧
          channel.log = sweep opts .write ++ sweep opts .read)
        (fun _ channel => Adds opts [] channel) := by
      apply contract_bind _ _ _ (fun _ channel => Covers native opts handle.fd opts.blocks.toNat channel.kernel ∧
        channel.log = sweep opts .write)
      · exact contract_fails (sync_covers native osError opts handle _ _) fun _ => ended
      · intro _
        have reading := phase_full histogram opts exact_sizes .sequentialRead .read
          (readPhaseOp native osError rounds opts handle (List.replicate opts.blockSize.toNat 0))
          (fun _ => Covers native opts handle.fd opts.blocks.toNat)
          (fun i log below => read_op_covers native osError rounds opts exact_sizes handle i below log) (sweep opts .write)
        apply contract_bind _ _ _ _ _ _ (contract_fails reading fun _ => ended)
        intro read
        apply contract_pure
        intro channel reached
        obtain ⟨same, _, logged⟩ := reached
        refine ⟨?_, logged⟩
        intro result member
        rcases List.mem_pair.mp member with rfl | rfl
        · exact total
        · exact same
    exact rest channel written

structure RawBounded : Prop where
  exact_sizes : Exact opts.fileSize opts.blockSize opts.blocks
  accesses : ∀ channel : Channel K, channel.log = [] →
    ∀ access ∈ (runRaw native osError rounds histogram opts channel).2.log, RawWithin opts access
  phases : ∀ (channel after : Channel K) (results : List BenchResult), channel.log = [] →
    runRaw native osError rounds histogram opts channel = (.ok results, after) →
      (∀ result ∈ results, result.totalBytes.toNat ≤ opts.fileSize.toNat ∧ result.samples = opts.blocks.toNat) ∧
        ∃ writes reads, after.log = writes ++ reads ∧
          (∀ access ∈ writes, access.kind = .write) ∧ (∀ access ∈ reads, access.kind = .read) ∧
          Tiles (writes.map fun access => (access.offset.toNat, access.len)) (opts.blocks * opts.blockSize).toNat ∧
          Tiles (reads.map fun access => (access.offset.toNat, access.len)) (opts.blocks * opts.blockSize).toNat

theorem sweep_tiles (exact_sizes : Exact opts.fileSize opts.blockSize opts.blocks) (kind : AccessKind) :
    Tiles ((sweep opts kind).map fun access => (access.offset.toNat, access.len)) (opts.blocks * opts.blockSize).toNat := by
  have ranges : (sweep opts kind).map (fun access => (access.offset.toNat, access.len)) =
      (List.range opts.blocks.toNat).map fun i => (i * opts.blockSize.toNat, opts.blockSize.toNat) := by
    rw [sweep, List.map_map]
    refine List.map_congr_left fun i listed => ?_
    have below := List.mem_range.mp listed
    have bound := opts.blocks.toNat_lt
    have index : (UInt64.ofNat i).toNat = i := UInt64.toNat_ofNat_of_lt' (by rw [UInt64.size]; omega)
    obtain ⟨product, _⟩ := exact_sizes.offset (UInt64.ofNat i) (UInt64.lt_iff_toNat_lt.mpr (index.symm ▸ below))
    rw [Function.comp_apply, full]
    dsimp only
    rw [product, index]
  rw [ranges, exact_sizes.total]
  exact tiles_range _ _

theorem run_raw_full (some_bytes : opts.blockSize ≠ 0) (fits : ¬ opts.fileSize < opts.blockSize) :
    Contract (fun channel : Channel K => channel.log = []) (runRaw native osError rounds histogram opts)
      (fun results channel => (∀ result ∈ results, RawWhole opts result) ∧
        channel.log = sweep opts .write ++ sweep opts .read)
      (fun _ channel => Adds opts [] channel) := by
  have positive : 0 < opts.blockSize.toNat := UInt64.lt_iff_toNat_lt.mp (UInt64.pos_iff_ne_zero.mpr some_bytes)
  intro channel none
  rw [runRaw, if_neg some_bytes, if_neg fits]
  cases native.createDirAll opts.path channel.kernel with
  | mk failure next =>
      cases failure with
      | some source => exact none ▸ adds_none opts (⟨next, channel.log⟩ : Channel K)
      | none =>
          have reached := run_inner_full native osError rounds histogram opts (blocks_exact _ _ some_bytes fits) positive
            (join opts.path ".hpc-bench-ffi.dat") ⟨next, channel.log⟩ none
          dsimp only
          cases ran : runInner native osError rounds histogram (join opts.path ".hpc-bench-ffi.dat") opts ⟨next, channel.log⟩ with
          | mk outcome after =>
              rw [ran] at reached
              cases outcome with
              | ok results => exact reached
              | error error => exact reached

theorem raw_bounded (some_bytes : opts.blockSize ≠ 0) (fits : ¬ opts.fileSize < opts.blockSize) :
    RawBounded native osError rounds histogram opts := by
  have exact_sizes : Exact opts.fileSize opts.blockSize opts.blocks := blocks_exact _ _ some_bytes fits
  have contract := run_raw_full native osError rounds histogram opts some_bytes fits
  refine ⟨exact_sizes, ?_, ?_⟩
  · refine fun channel none => contract_leaves (fun channel : Channel K => channel.log = []) _
      (fun channel => ∀ access ∈ channel.log, RawWithin opts access) ?_ channel none
    apply contract_ends contract
    · intro results after reached access member
      obtain ⟨_, logged⟩ := reached
      rw [logged] at member
      rcases List.mem_append.mp member with write | read
      · exact sweep_within opts exact_sizes .write access write
      · exact sweep_within opts exact_sizes .read access read
    · intro error after reached access member
      obtain ⟨last, logged, all⟩ := reached
      rw [logged, List.nil_append] at member
      exact all access member
  · intro channel after results none ran
    have reached := contract channel none
    rw [ran] at reached
    obtain ⟨totals, logged⟩ := reached
    refine ⟨?_, sweep opts .write, sweep opts .read, logged, ?_, ?_, sweep_tiles opts exact_sizes .write,
      sweep_tiles opts exact_sizes .read⟩
    · intro result member
      obtain ⟨total, samples⟩ := totals result member
      rw [total, exact_sizes.total]
      exact ⟨exact_sizes.total_le, samples⟩
    · intro access member
      obtain ⟨j, _, rfl⟩ := List.mem_map.mp member
      rfl
    · intro access member
      obtain ⟨j, _, rfl⟩ := List.mem_map.mp member
      rfl

end Bounds

section Together

variable {K : Type} (native : Native K)

-- Both runners, each on options that it accepts.
theorem benchmarks_bounded (host : Host) (opts : BenchOptions) (osError : Int32 → String) (rounds : Nat)
    (histogram : Option String) (raw : RawOptions) (valid : opts.validate = .ok ()) (some_bytes : raw.blockSize ≠ 0)
    (fits : ¬ raw.fileSize < raw.blockSize) :
    Bounded host opts ∧ RawBounded native osError rounds histogram raw :=
  ⟨suite_bounded host opts valid, raw_bounded native osError rounds histogram raw some_bytes fits⟩

end Together

section Samples

def quietHost : Host where
  fault _ := none
  draw _ _ := 0
  draw_lt _ _ some_blocks := some_blocks
  histogram := none
  now := 1000

def slowDevice : Native FileState where
  toPosix := scheduled trickle
  createDirAll _ file := (none, file)
  openAt _ _ file := (.moved 3, file)
  fsync _ file := (none, file)
  unlink _ file := ⟨[], file.clock⟩
  fsync_keeps _ _ := rfl

def unevenOptions : BenchOptions :=
  ⟨"/mnt/scratch", 4096, 10000, [.randomRead, .sequentialWrite, .sequentialRead, .sequentialWrite], true⟩

theorem uneven_sizes_bounded :
    Bounded quietHost unevenOptions ∧
      RawBounded slowDevice (fun _ => "error") 100000 none ⟨"/mnt/scratch", 4096, 10000, true⟩ :=
  benchmarks_bounded slowDevice quietHost unevenOptions (fun _ => "error") 100000 none ⟨"/mnt/scratch", 4096, 10000, true⟩
    rfl (by decide) (by decide)

end Samples

end Hpc.Bench
