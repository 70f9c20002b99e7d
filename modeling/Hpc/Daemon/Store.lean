import Hpc.Core.Json
import Hpc.Core.Error

set_option autoImplicit false

namespace Hpc.Daemon

open Hpc.Core

-- serde_json at one record type. Encoding these types cannot fail: their keys are strings and no field has a fallible
-- serializer.
structure Codec (Record Bytes : Type) where
  toVec : Record → Bytes
  fromSlice : Bytes → Except String Record

def jsonCodec {F : Type} [F64 F] (serde : SerdeF64 F) : Codec (NodeRecord F) (Json F) :=
  ⟨writeRecord serde, readRecord serde⟩

def outcomeCodec {F : Type} : Codec CommandOutcome (Json F) := ⟨writeOutcome, readOutcome⟩

-- How the database answers a write transaction. A failing one changes nothing.
inductive Txn where
  | commits
  | fails (message : String)
deriving DecidableEq

structure Store (Bytes : Type) where
  nodes : StrMap Bytes
  outcomes : StrMap Bytes

def Store.fresh {Bytes : Type} : Store Bytes := ⟨∅, ∅⟩

section Operations

variable {F Bytes : Type} (codec : Codec (NodeRecord F) Bytes)

def putNode (txn : Txn) (record : NodeRecord F) (store : Store Bytes) : Except HpcError (Store Bytes) :=
  let bytes := codec.toVec record
  match txn with
  | .commits => .ok { store with nodes := store.nodes.insert record.info.nodeId bytes }
  | .fails message => .error (.store message)

def deleteNode (txn : Txn) (nodeId : NodeId) (store : Store Bytes) : Except HpcError (Bool × Store Bytes) :=
  match txn with
  | .commits => .ok (store.nodes.contains nodeId, { store with nodes := store.nodes.erase nodeId })
  | .fails message => .error (.store message)

def decodeNode (bytes : Bytes) : Except HpcError (NodeRecord F) :=
  (codec.fromSlice bytes).mapError .serde

-- Rows come in key order; the first one that does not decode aborts the load.
def loadNodes (store : Store Bytes) : Except HpcError (List (NodeRecord F)) :=
  store.nodes.toList.mapM fun (_, value) => decodeNode codec value

end Operations

section Outcomes

variable {Bytes : Type} (codec : Codec CommandOutcome Bytes)

def putOutcome (txn : Txn) (outcome : CommandOutcome) (store : Store Bytes) : Except HpcError (Store Bytes) :=
  let bytes := codec.toVec outcome
  match txn with
  | .commits => .ok { store with outcomes := store.outcomes.insert outcome.commandId bytes }
  | .fails message => .error (.store message)

def loadOutcomes (store : Store Bytes) : Except HpcError (List CommandOutcome) := do
  let out ← store.outcomes.toList.mapM fun (_, value) => (codec.fromSlice value).mapError HpcError.serde
  return out.mergeSort fun a b => b.completedAtUnix ≤ a.completedAtUnix

end Outcomes

end Hpc.Daemon
