import Hpc.Daemon.Service
import Hpc.Daemon.Grpc

set_option autoImplicit false

namespace Hpc.Daemon

open Hpc.Core Hpc.Lib Hpc.Wire

-- A message of RegisterNode, or one item of a ReportMetrics stream, with the answer of the database and the clock reading
-- its handler gets.
inductive Message (F : Type) where
  | registerNode (txn : Txn) (info : Pb.NodeInfo) (now : UInt64)
  | reportMetrics (txn : Txn) (report : Pb.MetricsReport F) (now : UInt64)

def Message.nodeId {F : Type} : Message F → NodeId
  | .registerNode _ info _ => info.nodeId
  | .reportMetrics _ report _ => report.nodeId

structure Recorded (F Bytes : Type) where
  daemon : SharedState F Bytes
  persisted : NodeTable F

section Acceptance

variable {F Bytes : Type} (codec : Codec (NodeRecord F) Bytes)

def sampleOf (id : NodeId) : Message F → Option (Pb.MetricsReport F)
  | .registerNode _ _ _ => none
  | .reportMetrics _ report _ => if report.nodeId = id then some report else none

def lastSample (id : NodeId) (messages : List (Message F)) : Option (Pb.MetricsReport F) :=
  (messages.filterMap (sampleOf id)).getLast?

theorem last_sample_append (id : NodeId) (before : List (Message F)) (message : Message F) :
    lastSample id (before ++ [message]) = (sampleOf id message).or (lastSample id before) := by
  rw [lastSample, List.filterMap_append, List.getLast?_append]
  cases found : sampleOf id message <;> simp [found, lastSample]

theorem sample_of_other (id : NodeId) (message : Message F) (other : message.nodeId ≠ id) : sampleOf id message = none := by
  cases message with
  | registerNode txn info now => rfl
  | reportMetrics txn report now => exact if_neg other

variable [F64 F] (daemon : Instance) (thresholds : Thresholds F)

def handle (state : SharedState F Bytes) : Message F → Except Status Unit × SharedState F Bytes
  | .registerNode txn info now =>
      let (answer, next) := Grpc.registerNode codec daemon txn info now state
      (answer.map fun _ => (), next)
  | .reportMetrics txn report now => Grpc.reportItem codec thresholds txn report now state

-- What put_node writes is a clone of the entry the handler has just updated.
def accept (state : Recorded F Bytes) (message : Message F) : Option (Recorded F Bytes) :=
  match handle codec daemon thresholds state.daemon message with
  | (.error _, _) => none
  | (.ok _, next) =>
      (next.nodes[message.nodeId]?).map fun record => ⟨next, state.persisted.insert message.nodeId record⟩

def AllFinite (floats : List F) : Prop := ∀ x ∈ floats, F64.isFinite x = true

def FiniteSample (id : NodeId) (messages : List (Message F)) : Prop :=
  ∀ report, lastSample id messages = some report → AllFinite (metricsReportFromPb report).floats

theorem accept_spec (state next : Recorded F Bytes) (message : Message F) (own : OwnKeys state.daemon.nodes)
    (accepted : accept codec daemon thresholds state message = some next) :
    ∃ record, record.info.nodeId = message.nodeId ∧
      next = ⟨⟨state.daemon.nodes.insert message.nodeId record, state.daemon.channels,
        state.daemon.store.insertNode codec record⟩, state.persisted.insert message.nodeId record⟩ ∧
      record.latestMetrics = ((sampleOf message.nodeId message).map metricsReportFromPb).or
        ((state.daemon.nodes[message.nodeId]?).bind NodeRecord.latestMetrics) := by
  cases message with
  | registerNode txn info now =>
      cases outcome : registerNode codec txn (nodeInfoFromPb info) now state.daemon with
      | mk answer after =>
          cases answer with
          | error failure => simp [accept, handle, Grpc.registerNode, outcome, Except.map] at accepted
          | ok record =>
              obtain ⟨written, rfl⟩ := register_node_ok codec txn _ now state.daemon after record outcome
              have shape := register_table_record (nodeInfoFromPb info) now state.daemon.nodes
              have here := register_table_lookup (nodeInfoFromPb info) now state.daemon.nodes info.nodeId
              have key : (nodeInfoFromPb info).nodeId = info.nodeId := rfl
              rw [if_pos key, ← written] at here
              simp only [accept, handle, Grpc.registerNode, outcome, Except.map, Message.nodeId, here, Option.map_some,
                Option.some.injEq] at accepted
              refine ⟨record, by rw [written, shape]; rfl, ?_, by rw [written, shape]; rfl⟩
              rw [← accepted, written]
              rfl
  | reportMetrics txn report now =>
      cases outcome : ingestMetrics codec thresholds txn (metricsReportFromPb report) now state.daemon with
      | mk answer after =>
          cases answer with
          | error failure => simp [accept, handle, Grpc.reportItem, outcome] at accepted
          | ok done =>
              obtain ⟨old, found, rfl⟩ := ingest_metrics_ok codec thresholds txn _ now state.daemon after outcome
              have key : (metricsReportFromPb report).nodeId = report.nodeId := rfl
              simp only [accept, handle, Grpc.reportItem, outcome, Message.nodeId, key, lookup_insert, if_pos,
                Option.map_some, Option.some.injEq] at accepted
              have sameNode : old.info.nodeId = report.nodeId := own _ old found
              refine ⟨⟨old.info, classify (metricsReportFromPb report) thresholds, now, some (metricsReportFromPb report)⟩,
                sameNode, accepted.symm, ?_⟩
              simp [sampleOf, Message.nodeId]

end Acceptance

section Decoding

variable {F : Type} [F64 F] (serde : SerdeF64 F)

theorem decode_json (record : NodeRecord F) :
    decodeNode (jsonCodec serde) ((jsonCodec serde).toVec record) = (record.traverse serde.reread).mapError .serde :=
  congrArg (Except.mapError HpcError.serde) (read_write_record serde record)

theorem decodes_iff (record : NodeRecord F) :
    (∃ loaded, decodeNode (jsonCodec serde) ((jsonCodec serde).toVec record) = .ok loaded) ↔ AllFinite record.floats := by
  simp only [decode_json, map_error_eq_ok_iff, record_traverse_succeeds, reread_succeeds_iff, AllFinite]

theorem decode_erase (record loaded : NodeRecord F)
    (decoded : decodeNode (jsonCodec serde) ((jsonCodec serde).toVec record) = .ok loaded) :
    loaded.erase = record.erase := by
  rw [decode_json, map_error_eq_ok_iff] at decoded
  exact record_traverse_erase serde.reread record loaded decoded

theorem decode_finite (record loaded : NodeRecord F)
    (decoded : decodeNode (jsonCodec serde) ((jsonCodec serde).toVec record) = .ok loaded) : AllFinite loaded.floats := by
  rw [decode_json, map_error_eq_ok_iff] at decoded
  exact record_traverse_image serde.reread _ (fun x y found => serde.read_finite (serde.write x) y found) record loaded decoded

theorem load_nodes_iff (store : Store (Json F)) (table : NodeTable F)
    (written : store.nodes = rows (jsonCodec serde) table) :
    (∃ records, loadNodes (jsonCodec serde) store = .ok records) ↔
      ∀ (id : NodeId) (record : NodeRecord F), table[id]? = some record → AllFinite record.floats := by
  rw [load_nodes_rows (jsonCodec serde) store table written, mapM_succeeds_iff, List.forall_mem_map]
  simp only [decodes_iff]
  apply Iff.intro
  · intro finite id record found
    exact finite (id, record) (Std.ExtTreeMap.mem_toList_iff_getElem?_eq_some.mpr found)
  · intro finite entry member
    exact finite entry.1 entry.2 (Std.ExtTreeMap.mem_toList_iff_getElem?_eq_some.mp member)

def ReadsBack (store : Store (Json F)) (table : NodeTable F) : Prop :=
  ∃ records, loadNodes (jsonCodec serde) store = .ok records ∧
    records.map NodeRecord.erase = (table.toList.map Prod.snd).map NodeRecord.erase

theorem reads_back_iff (store : Store (Json F)) (table : NodeTable F)
    (written : store.nodes = rows (jsonCodec serde) table) :
    ReadsBack serde store table ↔
      ∀ (id : NodeId) (record : NodeRecord F), table[id]? = some record → AllFinite record.floats := by
  rw [← load_nodes_iff serde store table written]
  apply Iff.intro
  · intro ⟨records, loaded, _⟩
    exact ⟨records, loaded⟩
  · intro ⟨records, loaded⟩
    refine ⟨records, loaded, ?_⟩
    rw [load_nodes_rows (jsonCodec serde) store table written] at loaded
    exact mapM_observe _ NodeRecord.erase NodeRecord.erase (decode_erase serde) _ records loaded

theorem bootstrap_succeeds (store : Store (Json F)) (records : List (NodeRecord F))
    (loaded : loadNodes (jsonCodec serde) store = .ok records) :
    bootstrap (jsonCodec serde) store = .ok ⟨records.foldl hydrate ∅, ∅, store⟩ := by
  rw [bootstrap, loaded]
  rfl

end Decoding

section Durability

variable {F : Type} [F64 F] (serde : SerdeF64 F) (daemon : Instance) (thresholds : Thresholds F)

-- The records of a run, in memory and on disk, hold a float that is not finite exactly where the last sample accepted for
-- the node does.
structure Sound (done : List (Message F)) (state : Recorded F (Json F)) : Prop where
  written : state.daemon.store.nodes = rows (jsonCodec serde) state.persisted
  ownMemory : OwnKeys state.daemon.nodes
  ownDisk : OwnKeys state.persisted
  memory : ∀ (id : NodeId) (record : NodeRecord F), state.daemon.nodes[id]? = some record →
    (AllFinite record.floats ↔ FiniteSample id done)
  disk : ∀ (id : NodeId) (record : NodeRecord F), state.persisted[id]? = some record →
    (AllFinite record.floats ↔ FiniteSample id done)
  known : ∀ (id : NodeId) (report : Pb.MetricsReport F), lastSample id done = some report →
    state.daemon.nodes[id]? ≠ none ∧ state.persisted[id]? ≠ none

theorem finite_sample_append (done : List (Message F)) (message : Message F) (old record : Option (MetricsReport F))
    (before : AllFinite (old.toList.flatMap MetricsReport.floats) ↔ FiniteSample message.nodeId done)
    (shape : record = ((sampleOf message.nodeId message).map metricsReportFromPb).or old) :
    AllFinite (record.toList.flatMap MetricsReport.floats) ↔ FiniteSample message.nodeId (done ++ [message]) := by
  rw [FiniteSample, last_sample_append]
  cases sample : sampleOf message.nodeId message with
  | none =>
      rw [shape, sample]
      exact before
  | some report => simp [shape, sample]

theorem finite_sample_other (done : List (Message F)) (message : Message F) (id : NodeId) (other : message.nodeId ≠ id) :
    FiniteSample id (done ++ [message]) ↔ FiniteSample id done := by
  rw [FiniteSample, last_sample_append, sample_of_other id message other]
  rfl

theorem sound_memory (done : List (Message F)) (state : Recorded F (Json F)) (sound : Sound serde done state) (id : NodeId) :
    AllFinite (((state.daemon.nodes[id]?).bind NodeRecord.latestMetrics).toList.flatMap MetricsReport.floats) ↔
      FiniteSample id done := by
  cases found : state.daemon.nodes[id]? with
  | some record => exact sound.memory id record found
  | none =>
      have unseen : ∀ report, lastSample id done ≠ some report :=
        fun report sampled => (sound.known id report sampled).1 found
      simp [AllFinite, FiniteSample, unseen]

theorem sound_insert (done : List (Message F)) (message : Message F) (table : NodeTable F) (record : NodeRecord F)
    (before : ∀ (id : NodeId) (record : NodeRecord F), table[id]? = some record →
      (AllFinite record.floats ↔ FiniteSample id done))
    (fresh : AllFinite record.floats ↔ FiniteSample message.nodeId (done ++ [message])) (id : NodeId) (found : NodeRecord F)
    (present : (table.insert message.nodeId record)[id]? = some found) :
    AllFinite found.floats ↔ FiniteSample id (done ++ [message]) := by
  rw [lookup_insert] at present
  by_cases same : message.nodeId = id
  · rw [if_pos same] at present
    cases present
    exact same ▸ fresh
  · rw [if_neg same] at present
    exact (before id found present).trans (finite_sample_other done message id same).symm

theorem sound_accept (done : List (Message F)) (state next : Recorded F (Json F)) (message : Message F)
    (sound : Sound serde done state)
    (accepted : accept (jsonCodec serde) daemon thresholds state message = some next) :
    Sound serde (done ++ [message]) next := by
  obtain ⟨record, key, rfl, latest⟩ :=
    accept_spec (jsonCodec serde) daemon thresholds state next message sound.ownMemory accepted
  have fresh : AllFinite record.floats ↔ FiniteSample message.nodeId (done ++ [message]) :=
    finite_sample_append done message _ _ (sound_memory serde done state sound message.nodeId) latest
  refine ⟨?written, own_keys_insert _ _ record sound.ownMemory key, own_keys_insert _ _ record sound.ownDisk key,
    sound_insert done message _ record sound.memory fresh, sound_insert done message _ record sound.disk fresh, ?known⟩
  case written => rw [rows_insert, ← sound.written, ← key]; rfl
  case known =>
    intro id report sampled
    by_cases same : message.nodeId = id
    · simp [same]
    · rw [last_sample_append, sample_of_other id message same, Option.none_or] at sampled
      simpa [lookup_insert, same] using sound.known id report sampled

theorem sound_start (store : Store (Json F)) (persisted : NodeTable F) (state : SharedState F (Json F))
    (written : store.nodes = rows (jsonCodec serde) persisted) (own : OwnKeys persisted)
    (booted : bootstrap (jsonCodec serde) store = .ok state) : Sound serde [] ⟨state, persisted⟩ := by
  obtain ⟨records, loaded, rfl⟩ := bootstrap_spec (jsonCodec serde) store state booted
  have finite := (load_nodes_iff serde store persisted written).mp ⟨records, loaded⟩
  have unsampled : ∀ id : NodeId, FiniteSample (F := F) id [] := fun id report sampled => by simp [lastSample] at sampled
  refine ⟨written, ?ownMemory, own, ?memory, fun id record found => iff_of_true (finite id record found) (unsampled id),
    fun id report sampled => by simp [lastSample] at sampled⟩
  case ownMemory =>
    intro id record found
    obtain ⟨source, _, key, rfl⟩ := hydrate_mem records id record found
    exact key
  case memory =>
    intro id record found
    obtain ⟨source, member, _, rfl⟩ := hydrate_mem records id record found
    rw [load_nodes_rows (jsonCodec serde) store persisted written] at loaded
    obtain ⟨origin, _, decoded⟩ := mapM_result_mem _ _ records loaded source member
    exact iff_of_true (decode_finite serde origin source decoded) (unsampled id)

def Reloads (state : Recorded F (Json F)) : Prop :=
  ReadsBack serde state.daemon.store state.persisted ∧
    ∃ restarted, bootstrap (jsonCodec serde) state.daemon.store = .ok restarted

theorem reloads_iff_finite_samples (store : Store (Json F)) (persisted : NodeTable F) (start : SharedState F (Json F))
    (messages : List (Message F)) (finish : Recorded F (Json F))
    (written : store.nodes = rows (jsonCodec serde) persisted) (own : OwnKeys persisted)
    (booted : bootstrap (jsonCodec serde) store = .ok start)
    (accepted : runFrom (accept (jsonCodec serde) daemon thresholds) ⟨start, persisted⟩ messages = some finish) :
    Reloads serde finish ↔ ∀ (id : NodeId) (report : Pb.MetricsReport F), lastSample id messages = some report →
      AllFinite (metricsReportFromPb report).floats := by
  have sound : Sound serde messages finish := run_traced _ (Sound serde)
    (fun done state message next before taken => sound_accept serde daemon thresholds done state next message before taken)
    _ finish [] messages (sound_start serde store persisted start written own booted) accepted
  have readable := reads_back_iff serde finish.daemon.store finish.persisted sound.written
  apply Iff.intro
  · intro ⟨loads, _⟩ id report sampled
    obtain ⟨record, found⟩ := Option.ne_none_iff_exists'.mp (sound.known id report sampled).2
    exact (sound.disk id record found).mp (readable.mp loads id record found) report sampled
  · intro finite
    have loads := readable.mpr fun id record found => (sound.disk id record found).mpr (finite id)
    have ⟨records, loaded, _⟩ := loads
    exact ⟨loads, _, bootstrap_succeeds serde finish.daemon.store records loaded⟩

end Durability

section Samples

def sampleInstance : Instance := ⟨1000, 10⟩

def reportOf (id : NodeId) (usagePercent : ExactF64) : Pb.MetricsReport ExactF64 :=
  ⟨id, 1000, some ⟨usagePercent, [usagePercent]⟩, none, none, [], none, []⟩

def runOf (usagePercent : ExactF64) : List (Message ExactF64) :=
  [.registerNode .commits (nodeInfoToPb (sampleInfo "n1")) 1000, .reportMetrics .commits (reportOf "n1" usagePercent) 1001]

def finishOf (usagePercent : ExactF64) : Recorded ExactF64 (Json ExactF64) :=
  (runFrom (accept (jsonCodec exactSerde) sampleInstance sampleConfig.thresholds) ⟨⟨∅, ∅, Store.fresh⟩, ∅⟩
    (runOf usagePercent)).getD ⟨⟨∅, ∅, Store.fresh⟩, ∅⟩

theorem finite_run_reloads : Reloads exactSerde (finishOf (.finite 50)) ↔
    ∀ (id : NodeId) (report : Pb.MetricsReport ExactF64), lastSample id (runOf (.finite 50)) = some report →
      AllFinite (metricsReportFromPb report).floats :=
  reloads_iff_finite_samples exactSerde sampleInstance sampleConfig.thresholds Store.fresh ∅ ⟨∅, ∅, Store.fresh⟩
    (runOf (.finite 50)) (finishOf (.finite 50)) rfl (by simp [OwnKeys]) rfl rfl

theorem not_a_number_unreadable :
    bootstrap (jsonCodec exactSerde) Store.fresh = .ok ⟨∅, ∅, Store.fresh⟩ ∧
      runFrom (accept (jsonCodec exactSerde) sampleInstance sampleConfig.thresholds) ⟨⟨∅, ∅, Store.fresh⟩, ∅⟩ (runOf .nan) =
        some (finishOf .nan) ∧
      ¬ Reloads exactSerde (finishOf .nan) := by
  refine ⟨rfl, rfl, ?_⟩
  intro ⟨⟨records, loaded, _⟩, _⟩
  have failed : (loadNodes (jsonCodec exactSerde) (finishOf .nan).daemon.store).toBool = false := by decide +kernel
  rw [loaded] at failed
  cases failed

end Samples

end Hpc.Daemon
