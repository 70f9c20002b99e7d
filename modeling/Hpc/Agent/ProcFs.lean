import Hpc.Core.Text
import Hpc.Daemon.Api

set_option autoImplicit false

namespace Hpc.Agent

open Hpc.Core Hpc.Daemon

structure NetCounters where
  rx : UInt64
  tx : UInt64
  rxe : UInt64
  txe : UInt64
deriving DecidableEq, Repr

def NetCounters.zero : NetCounters := ⟨0, 0, 0, 0⟩

-- The additions wrap, as those of a release build do.
def NetCounters.add (a b : NetCounters) : NetCounters := ⟨a.rx + b.rx, a.tx + b.tx, a.rxe + b.rxe, a.txe + b.txe⟩

def counter (cols : List (List Char)) (index : Nat) : UInt64 := (cols[index]?.bind parseU64).getD 0

-- A line that is passed over is none: the headers, the loopback, and a row with too few columns.
def netRow (line : List Char) : Option (String × NetCounters) :=
  match splitOnce ':' line with
  | none => none
  | some (head, rest) =>
      let iface := trim isWhiteSpace head
      if iface = ['l', 'o'] ∨ iface = [] then none
      else
        let cols := words isWhiteSpace rest
        if cols.length < 11 then none
        else some (String.ofList iface, ⟨counter cols 0, counter cols 8, counter cols 2, counter cols 10⟩)

-- No content is a file that cannot be read.
def interfaces (content : Option String) : List (String × NetCounters) :=
  content.elim [] fun text => (lines text.toList).filterMap netRow

def readNetDev (content : Option String) : NetCounters :=
  (interfaces content).foldl (fun sums row => sums.add row.2) NetCounters.zero

def sectorBytes : UInt64 := 512

def virtualDevice (name : List Char) : Bool := ['l', 'o', 'o', 'p'].isPrefixOf name || ['r', 'a', 'm'].isPrefixOf name

def diskRow (line : List Char) : Option (String × UInt64 × UInt64) :=
  let f := words isWhiteSpace line
  if f.length < 10 then none
  else
    let name := f[2]?.getD []
    if virtualDevice name then none
    else
      match f[5]?.bind parseU64, f[9]?.bind parseU64 with
      | some rdSectors, some wrSectors => some (String.ofList name, rdSectors * sectorBytes, wrSectors * sectorBytes)
      | _, _ => none

def readDiskstats (content : Option String) : StrMap (UInt64 × UInt64) :=
  (content.elim [] fun text => (lines text.toList).filterMap diskRow).foldl (fun out row => out.insert row.1 row.2) ∅

example : readNetDev (some "face |bytes packets\n  lo: 9 0 0 0 0 0 0 0 9 0 0 0\neth0: 5 4 2 0 0 0 0 0 7 5 1 0\n") = ⟨5, 7, 2, 1⟩ := by
  decide +kernel

end Hpc.Agent
