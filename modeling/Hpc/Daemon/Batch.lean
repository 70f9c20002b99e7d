import Hpc.Daemon.Commute
import Hpc.Daemon.Grpc
import Hpc.Daemon.Overlap

set_option autoImplicit false

namespace Hpc.Daemon

open Hpc.Core Hpc.Lib Hpc.Wire

structure Arrival (F : Type) where
  report : Pb.MetricsReport F
  now : UInt64

section Samples

variable {F Bytes : Type} [F64 F] (codec : Codec (NodeRecord F) Bytes) (thresholds : Thresholds F)

def Arrival.item (arrival : Arrival F) : Except Status (Txn × Pb.MetricsReport F × UInt64) :=
  .ok (.commits, arrival.report, arrival.now)

def Arrival.sampled (arrival : Arrival F) (old : NodeRecord F) : NodeRecord F :=
  let report := metricsReportFromPb arrival.report
  ⟨old.info, classify report thresholds, arrival.now, some report⟩

def lastOf (taken : List (Arrival F)) (id : NodeId) : Option (Arrival F) :=
  taken.reverse.find? fun arrival => arrival.report.nodeId == id

def NodeCell.sampled (cell : NodeCell F Bytes) (last : Option (Arrival F)) : NodeCell F Bytes :=
  match last, cell.record with
  | some arrival, some old => cell.put codec .commits (arrival.sampled thresholds old)
  | _, _ => cell

structure Took (taken : List (Arrival F)) (before after : SharedState F Bytes) : Prop where
  known : ∀ arrival ∈ taken, ∃ old, before.nodes[arrival.report.nodeId]? = some old
  cells : ∀ id, nodeCell after id = (nodeCell before id).sampled codec thresholds (lastOf taken id)
  outcomes : after.store.outcomes = before.store.outcomes

-- How a stream ends behind the samples it has brought: at its end, at an error of the transport, at a node that is not in the
-- table, or at a transaction that fails and leaves its sample in the table alone.
inductive Ends (state : SharedState F Bytes) (count : Nat) :
    List (Except Status (Txn × Pb.MetricsReport F × UInt64)) → Except Status Nat → SharedState F Bytes → Prop where
  | complete : Ends state count [] (.ok count) state
  | severed (status : Status) (rest : List (Except Status (Txn × Pb.MetricsReport F × UInt64))) :
      Ends state count (.error status :: rest) (.error status) state
  | unknown (txn : Txn) (report : Pb.MetricsReport F) (now : UInt64)
      (rest : List (Except Status (Txn × Pb.MetricsReport F × UInt64))) (absent : state.nodes[report.nodeId]? = none) :
      Ends state count (.ok (txn, report, now) :: rest) (.error ⟨.internal, (unknownNode report.nodeId).display⟩) state
  | unwritten (message : String) (report : Pb.MetricsReport F) (now : UInt64) (old : NodeRecord F)
      (rest : List (Except Status (Txn × Pb.MetricsReport F × UInt64))) (known : state.nodes[report.nodeId]? = some old) :
      Ends state count (.ok (.fails message, report, now) :: rest) (.error ⟨.internal, (HpcError.store message).display⟩)
        { state with nodes := state.nodes.insert report.nodeId ((Arrival.mk report now).sampled thresholds old) }

omit [F64 F] in
theorem last_of_cons (arrival : Arrival F) (taken : List (Arrival F)) (id : NodeId) :
    lastOf (arrival :: taken) id = (lastOf taken id).or (if arrival.report.nodeId = id then some arrival else none) := by
  rw [lastOf, List.reverse_cons, List.find?_append, lastOf]
  by_cases own : arrival.report.nodeId = id <;> simp [own]

theorem sampled_twice (cell : NodeCell F Bytes) (first second : Option (Arrival F)) :
    (cell.sampled codec thresholds first).sampled codec thresholds second =
      cell.sampled codec thresholds (second.or first) := by
  obtain ⟨record, channel, row⟩ := cell
  cases second with
  | none => cases first <;> cases record <;> rfl
  | some later => cases first <;> cases record <;> rfl

theorem took_none (state : SharedState F Bytes) : Took codec thresholds [] state state :=
  ⟨fun _ absent => by (cases absent), fun _ => rfl, rfl⟩

theorem put_sampled (arrival : Arrival F) (state : SharedState F Bytes) (old : NodeRecord F)
    (known : state.nodes[arrival.report.nodeId]? = some old) (own : old.info.nodeId = arrival.report.nodeId) (id : NodeId) :
    nodeCell (state.put codec .commits arrival.report.nodeId (arrival.sampled thresholds old)) id =
      (nodeCell state id).sampled codec thresholds (if arrival.report.nodeId = id then some arrival else none) := by
  rw [put_cell codec .commits arrival.report.nodeId (arrival.sampled thresholds old) state own id]
  by_cases same : arrival.report.nodeId = id
  · subst same
    rw [if_pos rfl, if_pos rfl, NodeCell.sampled]
    simp only [nodeCell, known]
  · rw [if_neg same, if_neg same]
    rfl

theorem took_cons (arrival : Arrival F) (taken : List (Arrival F)) (state after : SharedState F Bytes) (old : NodeRecord F)
    (known : state.nodes[arrival.report.nodeId]? = some old) (own : old.info.nodeId = arrival.report.nodeId)
    (rest : Took codec thresholds taken
      (state.put codec .commits arrival.report.nodeId (arrival.sampled thresholds old)) after) :
    Took codec thresholds (arrival :: taken) state after := by
  refine ⟨?_, fun id => ?_, rest.outcomes⟩
  · intro other member
    rcases List.mem_cons.mp member with rfl | later
    · exact ⟨old, known⟩
    · obtain ⟨record, found⟩ := rest.known other later
      change (state.nodes.insert arrival.report.nodeId _)[other.report.nodeId]? = some record at found
      rw [lookup_insert] at found
      split at found
      · rename_i same
        exact ⟨old, same ▸ known⟩
      · exact ⟨record, found⟩
  · rw [rest.cells id, put_sampled codec thresholds arrival state old known own id, sampled_twice, ← last_of_cons]

theorem report_item_spec (txn : Txn) (report : Pb.MetricsReport F) (now : UInt64) (state : SharedState F Bytes) :
    Grpc.reportItem codec thresholds txn report now state = match state.nodes[report.nodeId]?, txn with
      | none, _ => (.error ⟨.internal, (unknownNode report.nodeId).display⟩, state)
      | some old, .commits =>
          (.ok (), state.put codec .commits report.nodeId ((Arrival.mk report now).sampled thresholds old))
      | some old, .fails message => (.error ⟨.internal, (HpcError.store message).display⟩,
          { state with nodes := state.nodes.insert report.nodeId ((Arrival.mk report now).sampled thresholds old) }) := by
  rw [Grpc.reportItem, ingest_metrics_put]
  have own : (metricsReportFromPb report).nodeId = report.nodeId := rfl
  rw [own]
  cases state.nodes[report.nodeId]? with
  | none => rfl
  | some old => cases txn <;> rfl

theorem report_stream_prefix (items : List (Except Status (Txn × Pb.MetricsReport F × UInt64))) (received : Nat)
    (state : SharedState F Bytes) (keyed : SelfKeyed (fun record : NodeRecord F => record.info.nodeId) state.nodes) :
    ∃ taken rest middle, items = taken.map Arrival.item ++ rest ∧ Took codec thresholds taken state middle ∧
      Ends thresholds middle (received + taken.length) rest (Grpc.reportStream codec thresholds items received state).1
        (Grpc.reportStream codec thresholds items received state).2 := by
  induction items generalizing received state with
  | nil => exact ⟨[], [], state, rfl, took_none codec thresholds state, .complete⟩
  | cons item rest ih =>
      cases item with
      | error status => exact ⟨[], _, state, rfl, took_none codec thresholds state, .severed status rest⟩
      | ok item =>
          obtain ⟨txn, report, now⟩ := item
          rw [Grpc.reportStream, report_item_spec]
          cases known : state.nodes[report.nodeId]? with
          | none => exact ⟨[], _, state, rfl, took_none codec thresholds state, .unknown txn report now rest known⟩
          | some old =>
              cases txn with
              | fails message =>
                  exact ⟨[], _, state, rfl, took_none codec thresholds state, .unwritten message report now old rest known⟩
              | commits =>
                  have own : old.info.nodeId = report.nodeId := keyed report.nodeId old known
                  obtain ⟨taken, left, middle, split, took, ends⟩ := ih (received + 1)
                    (state.put codec .commits report.nodeId ((Arrival.mk report now).sampled thresholds old))
                    (rowwise_insert _ _ report.nodeId _ keyed own)
                  refine ⟨⟨report, now⟩ :: taken, left, middle, by rw [split]; rfl,
                    took_cons codec thresholds ⟨report, now⟩ taken state middle old known own took, ?_⟩
                  rw [List.length_cons, Nat.add_comm taken.length 1, ← Nat.add_assoc]
                  exact ends

end Samples

section Service

variable {F : Type} [F64 F] (serde : SerdeF64 F) (config : DaemonConfig F)

-- Whatever stream of samples comes, in every state the daemon can be in: it takes in the samples before the first that fails,
-- each node's last one counting in the table and on the disk, and no failure undoes that. It acknowledges a stream only if all
-- of it was taken in, and counts it as received if there was anything in it.
theorem batch_takes_prefix (start : SharedState F (Json F)) (phases : List (Phase F)) (finish : Overlapped F (Json F))
    (booted : bootstrap (jsonCodec serde) Store.fresh = .ok start)
    (ran : runFrom (overlapStep (jsonCodec serde) config) ⟨start, []⟩ phases = some finish)
    (request : List (Except Status (Txn × Pb.MetricsReport F × UInt64))) (now : UInt64) :
    ∃ taken rest middle outcome next, request = taken.map Arrival.item ++ rest ∧
      Took (jsonCodec serde) config.thresholds taken finish.daemon middle ∧
      Ends config.thresholds middle taken.length rest outcome next ∧
      Grpc.reportMetrics (jsonCodec serde) config.thresholds request now finish.daemon =
        (outcome.map fun count => ⟨decide (0 < count), now⟩, next) := by
  have rows := overlap_run_rows (jsonCodec serde) Kept config (kept_rows serde config.thresholds) start phases finish booted ran
  have keyed : SelfKeyed (fun record : NodeRecord F => record.info.nodeId) finish.daemon.nodes :=
    fun id record found => (rows.memory id record found).1
  obtain ⟨taken, rest, middle, split, took, ends⟩ :=
    report_stream_prefix (jsonCodec serde) config.thresholds request 0 finish.daemon keyed
  rw [Nat.zero_add] at ends
  refine ⟨taken, rest, middle, _, _, split, took, ends, ?_⟩
  rw [Grpc.reportMetrics]
  cases Grpc.reportStream (jsonCodec serde) config.thresholds request 0 finish.daemon with
  | mk outcome next =>
      cases outcome with
      | ok count => rfl
      | error status => rfl

end Service

section Streams

def bareReport (id : NodeId) : Pb.MetricsReport ℚ := ⟨id, 1002, none, none, none, [], none, []⟩

def oneRegistered : List (Phase ℚ) := [.update (.register (sampleInfo "n1") 1000), .transact 0 .commits]

theorem one_registered_runs :
    (runFrom (overlapStep (jsonCodec rationalSerde) rationalConfig) ⟨⟨∅, ∅, Store.fresh⟩, []⟩ oneRegistered).isSome := by
  decide +kernel

def mixedStream : List (Except Status (Txn × Pb.MetricsReport ℚ × UInt64)) :=
  [.ok (.commits, bareReport "n1", 1001), .ok (.commits, bareReport "n1", 1002), .ok (.commits, bareReport "n2", 1003)]

theorem mixed_stream_taken :
    ∃ taken rest middle outcome next, mixedStream = taken.map Arrival.item ++ rest ∧
      Took (jsonCodec rationalSerde) rationalConfig.thresholds taken (Option.get _ one_registered_runs).daemon middle ∧
      Ends rationalConfig.thresholds middle taken.length rest outcome next ∧
      Grpc.reportMetrics (jsonCodec rationalSerde) rationalConfig.thresholds mixedStream 1004
          (Option.get _ one_registered_runs).daemon =
        (outcome.map fun count => ⟨decide (0 < count), 1004⟩, next) :=
  batch_takes_prefix rationalSerde rationalConfig ⟨∅, ∅, Store.fresh⟩ oneRegistered _ rfl
    (Option.some_get one_registered_runs).symm mixedStream 1004

end Streams

end Hpc.Daemon
