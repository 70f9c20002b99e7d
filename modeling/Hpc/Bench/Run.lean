import Hpc.Core.Error
import Hpc.Lib.Contract
import Hpc.Lib.Splice

set_option autoImplicit false

namespace Hpc.Bench

open Hpc.Core Hpc.Lib

inductive IoPattern where
  | sequentialRead
  | sequentialWrite
  | randomRead
  | randomWrite
deriving DecidableEq, Repr

structure BenchOptions where
  path : String
  blockSize : UInt64
  fileSize : UInt64
  patterns : List IoPattern
  fsync : Bool

-- Of a scenario's figures the clock and the histogram supply all but these.
structure BenchResult where
  pattern : IoPattern
  blockSizeBytes : UInt64
  totalBytes : UInt64
  samples : Nat
deriving DecidableEq, Repr

-- Of the latencies that a histogram holds, how many there are.
structure Histogram where
  len : Nat
deriving DecidableEq, Repr

def record (hist : Histogram) : Histogram := ⟨hist.len + 1⟩

theorem record_len (hist : Histogram) : (record hist).len = hist.len + 1 := rfl

structure BenchReport where
  targetPath : String
  startedAtUnix : UInt64
  results : List BenchResult
deriving DecidableEq, Repr

def PREP_CHUNK : UInt64 := 1048576

def BenchOptions.validate (opts : BenchOptions) : Except HpcError Unit :=
  if opts.blockSize = 0 then .error (.bench "block_size must be non-zero")
  else if opts.fileSize < opts.blockSize then .error (.bench "file_size must be at least block_size")
  else .ok ()

def BenchOptions.blocks (opts : BenchOptions) : UInt64 := max (opts.fileSize / opts.blockSize) 1

inductive AccessKind where
  | read
  | write
deriving DecidableEq, Repr

-- One operation of a scenario: where it starts, how many bytes it wants, and how many the file has at that moment.
structure Access where
  kind : AccessKind
  offset : UInt64
  len : Nat
  size : Nat
deriving DecidableEq, Repr

-- The scratch file in the target directory, and how many I/O steps and random draws there have been. The log of the
-- scenarios' operations is there to be reasoned about, no step reads it.
structure Disk where
  scratch : Option (List UInt8)
  steps : Nat
  draws : Nat
  log : List Access
deriving DecidableEq, Repr

-- A failing step: the error, and how much of the data a failing write has written by then.
structure Fault where
  source : String
  wrote : Nat

-- What a run meets: which of its I/O steps fail, what the generator draws from 0..n, whether a histogram can be had, and
-- what the clock says.
structure Host where
  fault : Nat → Option Fault
  draw : Nat → UInt64 → UInt64
  draw_lt : ∀ i n, 0 < n → draw i n < n
  histogram : Option String
  now : UInt64

abbrev Io (A : Type) := Fallible Disk HpcError A

section Steps

variable (host : Host)

-- An I/O step on a path either takes effect or fails, and then may have taken effect in part.
def step (path : String) (effect : List UInt8 → List UInt8) (half : Fault → List UInt8 → List UInt8) : Io Unit := fun disk =>
  match host.fault disk.steps with
  | none => (.ok (), { disk with scratch := disk.scratch.map effect, steps := disk.steps + 1 })
  | some fault =>
      (.error (.io (some path) fault.source), { disk with scratch := disk.scratch.map (half fault), steps := disk.steps + 1 })

-- A step that leaves the scratch file alone: a directory made, a seek, a flush, a sync.
def touch (path : String) : Io Unit := step host path id fun _ => id

def openTruncated (path : String) : Io Unit := fun disk =>
  match host.fault disk.steps with
  | none => (.ok (), { disk with scratch := some [], steps := disk.steps + 1 })
  | some fault => (.error (.io (some path) fault.source), { disk with steps := disk.steps + 1 })

def openExisting (path : String) : Io Unit := fun disk =>
  if disk.scratch = none then
    (.error (.io (some path) "No such file or directory (os error 2)"), { disk with steps := disk.steps + 1 })
  else touch host path disk

def writeAll (path : String) (position : Nat) (data : List UInt8) : Io Unit :=
  step host path (fun content => splice 0 content position data) fun fault content =>
    splice 0 content position (data.take fault.wrote)

-- What it reads is dropped.
def readExact (path : String) (position len : Nat) : Io Unit := fun disk =>
  if (disk.scratch.elim 0 List.length) < position + len then
    (.error (.io (some path) "early eof"), { disk with steps := disk.steps + 1 })
  else touch host path disk

-- Removing the file is taken to succeed.
def removeFile : Io Unit := fun disk => (.ok (), { disk with scratch := none, steps := disk.steps + 1 })

def issue (kind : AccessKind) (offset : UInt64) (len : Nat) : Io Unit := fun disk =>
  (.ok (), { disk with log := disk.log ++ [⟨kind, offset, len, disk.scratch.elim 0 List.length⟩] })

def randomRange (blocks : UInt64) : Io UInt64 := fun disk =>
  (.ok (host.draw disk.draws blocks), { disk with draws := disk.draws + 1 })

def newHistogram : Io Histogram :=
  match host.histogram with
  | none => pure ⟨0⟩
  | some text => throw (.bench ("histogram init: " ++ text))

end Steps

section Suite

variable (host : Host)

theorem min_to_nat (a b : UInt64) : (min a b).toNat = min a.toNat b.toNat := by
  rw [UInt64.min_def]
  by_cases ordered : a ≤ b
  · rw [if_pos ordered, Nat.min_eq_left (UInt64.le_iff_toNat_le.mp ordered)]
  · rw [if_neg ordered]
    rw [UInt64.le_iff_toNat_le] at ordered
    omega

theorem chunk_subtracts (remaining : UInt64) :
    (remaining - min remaining PREP_CHUNK).toNat = remaining.toNat - min remaining.toNat 1048576 := by
  have most : min remaining PREP_CHUNK ≤ remaining := by
    rw [UInt64.le_iff_toNat_le, min_to_nat]
    exact Nat.min_le_left _ _
  rw [UInt64.toNat_sub_of_le _ _ most, min_to_nat]
  rfl

theorem remaining_shrinks (remaining : UInt64) (more : 0 < remaining) :
    (remaining - min remaining PREP_CHUNK).toNat < remaining.toNat := by
  have positive : 0 < remaining.toNat := UInt64.lt_iff_toNat_lt.mp more
  rw [chunk_subtracts]
  omega

def prepareLoop (path : String) (position : Nat) (remaining : UInt64) : Io Unit :=
  if 0 < remaining then do
    let n := min remaining PREP_CHUNK
    writeAll host path position (List.replicate n.toNat 0)
    prepareLoop path (position + n.toNat) (remaining - n)
  else pure ()
termination_by remaining.toNat
decreasing_by exact remaining_shrinks remaining ‹_›

def prepareFile (path : String) (size : UInt64) : Io Unit := do
  openTruncated host path
  prepareLoop host path 0 size
  touch host path
  touch host path

def fillBlock (size : Nat) : List UInt8 := (List.range size).map fun i => UInt8.ofNat (i % 251)

def blockOffset (i blocks : UInt64) (random : Bool) (blockSize : UInt64) : Io UInt64 := do
  let index ← if random then randomRange host blocks else pure i
  pure (index * blockSize)

def summarise (pattern : IoPattern) (blockSize blocks : UInt64) (hist : Histogram) : BenchResult :=
  ⟨pattern, blockSize, blocks * blockSize, hist.len⟩

-- The rounds of a scenario that are left, the next of them for block i; the histogram has the rounds before it.
def forBlocks (opts : BenchOptions) (path : String) (random : Bool) (operation : UInt64 → Io Unit) :
    Nat → UInt64 → Histogram → Io Histogram
  | 0, _, hist => pure hist
  | left + 1, i, hist => do
      let offset ← blockOffset host i opts.blocks random opts.blockSize
      touch host path
      operation offset
      forBlocks opts path random operation left (i + 1) (record hist)

def writeBlock (path : String) (fsync : Bool) (block : List UInt8) (offset : UInt64) : Io Unit := do
  issue .write offset block.length
  writeAll host path offset.toNat block
  if fsync then touch host path else pure ()

def writeScenario (path : String) (opts : BenchOptions) (random : Bool) : Io BenchResult := do
  openExisting host path
  let hist ← newHistogram host
  let hist ← forBlocks host opts path random (writeBlock host path opts.fsync (fillBlock opts.blockSize.toNat))
    opts.blocks.toNat 0 hist
  touch host path
  pure (summarise (if random then .randomWrite else .sequentialWrite) opts.blockSize opts.blocks hist)

def readBlock (path : String) (len : Nat) (offset : UInt64) : Io Unit := do
  issue .read offset len
  readExact host path offset.toNat len

def readScenario (path : String) (opts : BenchOptions) (random : Bool) : Io BenchResult := do
  openExisting host path
  let hist ← newHistogram host
  let hist ← forBlocks host opts path random (readBlock host path opts.blockSize.toNat) opts.blocks.toNat 0 hist
  pure (summarise (if random then .randomRead else .sequentialRead) opts.blockSize opts.blocks hist)

def runPattern (path : String) (opts : BenchOptions) : IoPattern → Io BenchResult
  | .sequentialWrite => writeScenario host path opts false
  | .randomWrite => writeScenario host path opts true
  | .sequentialRead => readScenario host path opts false
  | .randomRead => readScenario host path opts true

-- The scenarios one by one; the first that fails has the file removed before its error is passed on.
def runPatterns (path : String) (opts : BenchOptions) : List IoPattern → Io (List BenchResult)
  | [] => pure []
  | pattern :: rest => do
      let result ← tryCatch (runPattern host path opts pattern) fun error => do
        removeFile
        throw error
      let results ← runPatterns path opts rest
      pure (result :: results)

def join (path name : String) : String :=
  if path = "" || path.endsWith "/" then path ++ name else path ++ "/" ++ name

def run (opts : BenchOptions) : Io BenchReport := do
  liftExcept opts.validate
  touch host opts.path
  let filePath := join opts.path ".hpc-bench.dat"
  prepareFile host filePath opts.fileSize
  let results ← runPatterns host filePath opts opts.patterns
  removeFile
  pure ⟨opts.path, host.now, results⟩

end Suite

end Hpc.Bench
