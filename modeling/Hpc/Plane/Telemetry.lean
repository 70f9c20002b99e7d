import Hpc.Agent.Traffic
import Hpc.Cli.Client
import Hpc.Daemon.Overlap
import Hpc.Wire.RoundTrip

set_option autoImplicit false

namespace Hpc.Plane

open Hpc.Core Hpc.Daemon Hpc.Lib Hpc.Wire Hpc.Agent Hpc.Cli

inductive Sighting (F : Type) where
  | unknown
  | silent
  | sample (report : MetricsReport F)

inductive Signal (F : Type) where
  | measured (collector : Collector) (machine : Machine F) (now : UInt64)
  | other (phase : Daemon.Phase F)

section History

variable {F : Type}

def Sighting.ofRow : Option (NodeRecord F) → Sighting F
  | none => .unknown
  | some record => record.latestMetrics.elim .silent .sample

def Sighting.isKnown : Sighting F → Bool
  | .unknown => false
  | _ => true

def Sighting.registered : Sighting F → Sighting F
  | .unknown => .silent
  | seen => seen

-- A sample stays to be seen until the next one of its node, through registrations, and until the node is removed.
def Sighting.after (id : NodeId) (seen : Sighting F) : Daemon.Phase F → Sighting F
  | .update (.register info _) => if info.nodeId = id then seen.registered else seen
  | .update (.ingest report _) => if report.nodeId = id ∧ seen.isKnown = true then .sample report else seen
  | .update (.deregister nodeId) => if nodeId = id then .unknown else seen
  | _ => seen

def Sighting.signalled [F64Rate F] (id : NodeId) (seen : Sighting F) : Signal F → Sighting F
  | .measured collector machine _ =>
      if collector.nodeId = id ∧ seen.isKnown = true then .sample (collector.collect machine).1 else seen
  | .other phase => seen.after id phase

def Signal.toPhase [F64Rate F] : Signal F → Daemon.Phase F
  | .measured collector machine now =>
      .update (.ingest (metricsReportFromPb (metricsReportToPb (collector.collect machine).1)) now)
  | .other phase => phase

theorem signalled_after [F64Rate F] (id : NodeId) (seen : Sighting F) (signal : Signal F) :
    seen.signalled id signal = seen.after id signal.toPhase := by
  cases signal with
  | measured collector machine now =>
      rw [Signal.toPhase, metrics_report_round_trips.decoded]
      rfl
  | other phase => rfl

theorem of_row_map (row : Option (NodeRecord F)) (change : NodeRecord F → NodeRecord F)
    (keeps : ∀ record, (change record).latestMetrics = record.latestMetrics) :
    Sighting.ofRow (row.map change) = Sighting.ofRow row := by
  cases row with
  | none => rfl
  | some record => simp only [Option.map_some, Sighting.ofRow, keeps]

variable [F64 F] (config : DaemonConfig F)

theorem sighting_step (id : NodeId) (row : Option (NodeRecord F)) (phase : Daemon.Phase F) :
    Sighting.ofRow (phase.onRow config id row) = (Sighting.ofRow row).after id phase := by
  cases phase with
  | update call =>
      cases call with
      | register info now =>
          by_cases own : info.nodeId = id
          · rw [Daemon.Phase.onRow, Sighting.after, if_pos own, if_pos own]
            cases row with
            | none => rfl
            | some record => cases latest : record.latestMetrics <;> simp [Sighting.ofRow, latest, Sighting.registered]
          · rw [Daemon.Phase.onRow, Sighting.after, if_neg own, if_neg own]
      | ingest report now =>
          by_cases own : report.nodeId = id
          · rw [Daemon.Phase.onRow, Sighting.after, if_pos own]
            cases row with
            | none => simp [Sighting.ofRow, Sighting.isKnown]
            | some record => cases latest : record.latestMetrics <;> simp [Sighting.ofRow, latest, Sighting.isKnown, own]
          · rw [Daemon.Phase.onRow, Sighting.after, if_neg own, if_neg fun both => own both.1]
      | deregister nodeId =>
          by_cases own : nodeId = id
          · rw [Daemon.Phase.onRow, Sighting.after, if_pos own, if_pos own]
            rfl
          · rw [Daemon.Phase.onRow, Sighting.after, if_neg own, if_neg own]
  | heartbeat nodeId now =>
      apply of_row_map
      intro record
      split <;> rfl
  | reap now =>
      apply of_row_map
      intro record
      exact (reap_record_fields _ record).2.2
  | _ => rfl

end History

section Answers

variable {F Bytes : Type} [F64Rate F] (serde : SerdeF64 F) (codec : Codec (NodeRecord F) Bytes) (config : DaemonConfig F)

def metricsUrl (api : ApiClient) (id : NodeId) : String := api.url ("/api/v1/nodes/" ++ id ++ "/metrics")

def Sighting.answer (api : ApiClient) (id : NodeId) : Sighting F → Except ClientError (MetricsReport F)
  | .unknown => .error (.refused (metricsUrl api id ++ " -> 404 Not Found: unknown node " ++ id))
  | .silent => .error (.refused (metricsUrl api id ++ " -> 404 Not Found: no metrics reported yet"))
  | .sample report =>
      (report.traverse serde.reread).mapError (.undecodable ("decoding response from " ++ metricsUrl api id))

theorem fetch_metrics_answer (text : Json F → String) (api : ApiClient) (id : NodeId) (state : SharedState F Bytes) :
    fetchMetrics text api serde id state = (Sighting.ofRow state.nodes[id]?).answer serde api id := by
  rw [fetchMetrics, decode_respond, Routes.getNodeMetrics, Routes.getNode]
  cases state.nodes[id]? with
  | none =>
      simp only [Sighting.ofRow, Sighting.answer, metricsUrl, bind, Except.bind, StatusCode.display, String.append_assoc]
      rfl
  | some record =>
      cases latest : record.latestMetrics with
      | none =>
          simp only [Sighting.ofRow, Sighting.answer, metricsUrl, latest, bind, Except.bind, StatusCode.display,
            String.append_assoc]
          rfl
      | some report => simp [Sighting.ofRow, Sighting.answer, metricsUrl, latest, bind, Except.bind, read_write_report]

theorem sighting_run (id : NodeId) (signals : List (Signal F)) (start finish : Overlapped F Bytes)
    (serves : ∀ signal ∈ signals, signal.toPhase ≠ .restart)
    (ran : runFrom (overlapStep codec config) start (signals.map Signal.toPhase) = some finish) :
    Sighting.ofRow finish.daemon.nodes[id]? =
      signals.foldl (fun seen signal => seen.signalled id signal) (Sighting.ofRow start.daemon.nodes[id]?) := by
  induction signals generalizing start with
  | nil => cases ran; rfl
  | cons signal rest ih =>
      rw [List.map_cons] at ran
      obtain ⟨next, taken, tail⟩ := (run_cons (overlapStep codec config) start finish _ _).mp ran
      have row := serving_table codec config start next signal.toPhase (serves signal List.mem_cons_self) taken id
      rw [ih next (fun other member => serves other (List.mem_cons_of_mem _ member)) tail, row, sighting_step,
        List.foldl_cons, signalled_after]

-- From the sensor to the screen: while the daemon runs, hpc fs status gets of a node the last sample its agent has measured,
-- whatever else happened to the cluster. Only JSON can change it, in the floats alone, or fail on one that is not finite.
theorem operator_sees_samples (start finish : Overlapped F Bytes) (signals : List (Signal F))
    (serves : ∀ signal ∈ signals, signal.toPhase ≠ .restart)
    (ran : runFrom (overlapStep codec config) start (signals.map Signal.toPhase) = some finish) (text : Json F → String)
    (api : ApiClient) (id : NodeId) :
    let seen := signals.foldl (fun seen signal => seen.signalled id signal) (Sighting.ofRow start.daemon.nodes[id]?)
    let fetched := fetchMetrics text api serde id finish.daemon
    fetched = seen.answer serde api id ∧
      ∀ report, seen = .sample report → ((∃ shown, fetched = .ok shown) ↔ AllFinite report.floats) ∧
        ∀ shown, fetched = .ok shown → shown.erase = report.erase := by
  intro seen fetched
  have answered : fetched = seen.answer serde api id := by
    have run := sighting_run codec config id signals start finish serves ran
    exact (fetch_metrics_answer serde text api id finish.daemon).trans (by rw [run])
  refine ⟨answered, fun report sampled => ?_⟩
  rw [sampled] at answered
  rw [answered]
  apply And.intro
  · simp only [Sighting.answer, map_error_eq_ok_iff, report_traverse_succeeds, reread_succeeds_iff, AllFinite]
  · intro shown came
    exact report_traverse_erase serde.reread report shown ((map_error_eq_ok_iff _ _ _).mp came)

end Answers

section Samples

def firstSample : List (Signal ExactF64) :=
  [.other (.update (.register (sampleInfo "n1") 1000)), .measured ⟨"n1", none⟩ (sampleMachine 1000 ethOnly) 1001]

theorem first_sample_runs :
    (runFrom (overlapStep (jsonCodec exactSerde) sampleConfig) ⟨⟨∅, ∅, Store.fresh⟩, []⟩
      (firstSample.map Signal.toPhase)).isSome := rfl

theorem first_sample_finite : AllFinite ((Collector.collect ⟨"n1", none⟩ (sampleMachine 1000 ethOnly)).1.floats) := by
  change ∀ x ∈ [ExactF64.finite 0, .finite 0, .finite 0, .finite 0], F64.isFinite x = true
  decide

theorem first_sample_seen :
    ∃ shown, fetchMetrics (fun _ => "") (ApiClient.new "http://127.0.0.1:8080") exactSerde "n1"
      (Option.get _ first_sample_runs).daemon = .ok shown :=
  ((operator_sees_samples exactSerde (jsonCodec exactSerde) sampleConfig ⟨⟨∅, ∅, Store.fresh⟩, []⟩ _ firstSample
    (by simp [firstSample, Signal.toPhase]) (Option.some_get first_sample_runs).symm (fun _ => "")
    (ApiClient.new "http://127.0.0.1:8080") "n1").2 _ rfl).1.mpr first_sample_finite

end Samples

end Hpc.Plane
