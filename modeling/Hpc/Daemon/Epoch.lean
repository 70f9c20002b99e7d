import Hpc.Daemon.Grpc
import Hpc.Daemon.Overlap

set_option autoImplicit false

namespace Hpc.Daemon

open Hpc.Core Hpc.Lib Hpc.Wire

structure Issued where
  issuer : Nat
  nodeId : NodeId
  epoch : UInt64
deriving DecidableEq

structure Lifetimes (F Bytes : Type) where
  state : Overlapped F Bytes
  number : Nat
  daemon : Instance
  issued : List Issued

-- The clock reading is that of bootstrap, where the phase is a restart.
structure Turn (F : Type) where
  phase : Phase F
  now : UInt64

section Machine

variable {F Bytes : Type}

-- A registration is acknowledged when its transaction commits. Its record is the one in flight that still says registered.
def Lifetimes.acknowledged (lifetimes : Lifetimes F Bytes) : Phase F → List Issued
  | .transact index .commits =>
      match lifetimes.state.inFlight[index]? with
      | some (.put record) =>
          if record.status = .registered then [⟨lifetimes.number, record.info.nodeId, lifetimes.daemon.epoch⟩] else []
      | _ => []
  | _ => []

-- An acknowledgement of an earlier instance that a heartbeat does not tell from one of this instance.
def Lifetimes.Hides (lifetimes : Lifetimes F Bytes) (ack : Issued) : Prop :=
  ack.issuer < lifetimes.number ∧ (ack.epoch = 0 ∨ ack.epoch = lifetimes.daemon.epoch)

def Detects (lifetimes : Lifetimes F Bytes) : Prop :=
  ∀ ack ∈ lifetimes.issued, ∀ now, ∃ reply,
    (Grpc.heartbeat lifetimes.daemon ⟨ack.nodeId, ack.epoch⟩ now lifetimes.state.daemon).1 = .ok reply ∧
      (ack.issuer < lifetimes.number → "reregister" ∈ reply.directives) ∧
      (ack.issuer = lifetimes.number → lifetimes.state.daemon.nodes.contains ack.nodeId → "reregister" ∉ reply.directives)

structure Numbered (lifetimes : Lifetimes F Bytes) : Prop where
  past : ∀ ack ∈ lifetimes.issued, ack.issuer ≤ lifetimes.number
  current : ∀ ack ∈ lifetimes.issued, ack.issuer = lifetimes.number → ack.epoch = lifetimes.daemon.epoch

variable (codec : Codec (NodeRecord F) Bytes)

def Persisted (store : Store Bytes) (id : NodeId) : Prop :=
  ∃ records, loadNodes codec store = .ok records ∧ ∃ record ∈ records, record.info.nodeId = id

-- The clock reading of a restart tells every earlier epoch of a node that is still there from its own, and a node for which that
-- cannot be told does not register anew.
def TellsApart (lifetimes : Lifetimes F Bytes) (turn : Turn F) : Prop :=
  match turn.phase with
  | .restart => ∀ ack ∈ lifetimes.issued, ack.epoch = 0 ∨ ack.epoch = turn.now →
      ¬ Persisted codec lifetimes.state.daemon.store ack.nodeId
  | .update (.register info _) => ∀ ack ∈ lifetimes.issued, lifetimes.Hides ack → ack.nodeId ≠ info.nodeId
  | _ => True

variable [F64 F] (config : DaemonConfig F)

def lifetimesStep (lifetimes : Lifetimes F Bytes) (turn : Turn F) : Option (Lifetimes F Bytes) :=
  (overlapStep codec config lifetimes.state turn.phase).map fun state =>
    match turn.phase with
    | .restart => ⟨state, lifetimes.number + 1, Instance.boot config turn.now, lifetimes.issued⟩
    | phase => ⟨state, lifetimes.number, lifetimes.daemon, lifetimes.issued ++ lifetimes.acknowledged phase⟩

end Machine

section Replies

variable {F Bytes : Type}

theorem heartbeat_known_iff (nodeId : NodeId) (now : UInt64) (state : SharedState F Bytes) :
    (heartbeat nodeId now state).1 = .ok () ↔ state.nodes.contains nodeId := by
  rw [Std.ExtTreeMap.contains_eq_isSome_getElem?]
  cases found : state.nodes[nodeId]? <;> simp [heartbeat, heartbeatTable, found]

theorem heartbeat_reply (daemon : Instance) (nodeRef : Pb.NodeRef) (now : UInt64) (state : SharedState F Bytes) :
    ∃ reply, (Grpc.heartbeat daemon nodeRef now state).1 = .ok reply ∧
      ("reregister" ∈ reply.directives ↔
        nodeRef.clusterEpoch ≠ 0 ∧ nodeRef.clusterEpoch ≠ daemon.epoch ∨ ¬ state.nodes.contains nodeRef.nodeId) := by
  have known := heartbeat_known_iff nodeRef.nodeId now state
  rw [Grpc.heartbeat]
  cases beaten : heartbeat nodeRef.nodeId now state with
  | mk result next =>
      rw [beaten] at known
      cases result with
      | ok _ =>
          have present := known.mp rfl
          refine ⟨_, rfl, ?_⟩
          by_cases mismatched : nodeRef.clusterEpoch ≠ 0 ∧ nodeRef.clusterEpoch ≠ daemon.epoch <;>
            simp [mismatched, present]
      | error _ =>
          have absent : ¬ state.nodes.contains nodeRef.nodeId := fun present => nomatch known.mpr present
          exact ⟨_, rfl, by simp [absent]⟩

theorem detects_iff (lifetimes : Lifetimes F Bytes) (numbered : Numbered lifetimes) :
    Detects lifetimes ↔
      ∀ ack ∈ lifetimes.issued, lifetimes.Hides ack → ¬ lifetimes.state.daemon.nodes.contains ack.nodeId := by
  apply Iff.intro
  · intro detects ack inside ⟨older, alike⟩ present
    obtain ⟨reply, answered, stale, _⟩ := detects ack inside 0
    obtain ⟨same, sent, asked⟩ := heartbeat_reply lifetimes.daemon ⟨ack.nodeId, ack.epoch⟩ 0 lifetimes.state.daemon
    cases answered.symm.trans sent
    rcases asked.mp (stale older) with ⟨nonzero, different⟩ | absent
    · exact alike.elim nonzero different
    · exact absent present
  · intro clear ack inside now
    obtain ⟨reply, sent, asked⟩ := heartbeat_reply lifetimes.daemon ⟨ack.nodeId, ack.epoch⟩ now lifetimes.state.daemon
    refine ⟨reply, sent, ?_, ?_⟩
    · intro older
      by_cases alike : ack.epoch = 0 ∨ ack.epoch = lifetimes.daemon.epoch
      · exact asked.mpr (Or.inr (clear ack inside ⟨older, alike⟩))
      · exact asked.mpr (Or.inl (not_or.mp alike))
    · intro own present directed
      rcases asked.mp directed with ⟨_, different⟩ | absent
      · exact different (numbered.current ack inside own)
      · exact absent present

theorem acknowledged_own (lifetimes : Lifetimes F Bytes) (phase : Phase F) (ack : Issued)
    (inside : ack ∈ lifetimes.acknowledged phase) :
    ack.issuer = lifetimes.number ∧ ack.epoch = lifetimes.daemon.epoch := by
  unfold Lifetimes.acknowledged at inside
  split at inside
  · split at inside
    · split at inside
      · rw [List.mem_singleton.mp inside]
        exact ⟨rfl, rfl⟩
      · cases inside
    · cases inside
  · cases inside

end Replies

section Tables

variable {F Bytes : Type} (codec : Codec (NodeRecord F) Bytes)

theorem persisted_iff (store : Store Bytes) (started : SharedState F Bytes) (booted : bootstrap codec store = .ok started)
    (id : NodeId) : started.nodes.contains id ↔ Persisted codec store id := by
  obtain ⟨records, loaded, rfl⟩ := bootstrap_spec codec store started booted
  rw [Std.ExtTreeMap.contains_eq_isSome_getElem?, hydrate_lookup]
  have same : Persisted codec store id ↔ ∃ record ∈ records, record.info.nodeId = id := by
    apply Iff.intro
    · rintro ⟨others, again, found⟩
      cases loaded.symm.trans again
      exact found
    · exact fun found => ⟨records, loaded, found⟩
  rw [same]
  simp [List.find?_isSome]

variable [F64 F] (config : DaemonConfig F)

theorem on_row_register (info : NodeInfo) (now : UInt64) (query : NodeId) (row : Option (NodeRecord F)) :
    ((Phase.update (.register info now)).onRow config query row).isSome ↔ info.nodeId = query ∨ row.isSome := by
  by_cases same : info.nodeId = query <;> simp [Phase.onRow, same]

theorem serving_contains_iff (state next : Overlapped F Bytes) (phase : Phase F) (serves : phase ≠ .restart)
    (taken : overlapStep codec config state phase = some next) (id : NodeId) :
    next.daemon.nodes.contains id ↔ (phase.onRow config id state.daemon.nodes[id]?).isSome := by
  rw [Std.ExtTreeMap.contains_eq_isSome_getElem?, serving_table codec config state next phase serves taken id]

theorem serving_shrinks (state next : Overlapped F Bytes) (phase : Phase F) (serves : phase ≠ .restart)
    (registers : ¬ ∃ info now, phase = .update (.register info now))
    (taken : overlapStep codec config state phase = some next) (id : NodeId) (present : next.daemon.nodes.contains id) :
    state.daemon.nodes.contains id := by
  rw [serving_contains_iff codec config state next phase serves taken id] at present
  rw [Std.ExtTreeMap.contains_eq_isSome_getElem?]
  obtain ⟨record, found⟩ := Option.isSome_iff_exists.mp present
  cases on_row_change config phase id _ record found with
  | registered info now own => exact absurd ⟨info, now, rfl⟩ registers
  | ingested report now old own known => rw [known]; rfl
  | beaten now old known => rw [known]; rfl
  | reaped now old known => rw [known]; rfl
  | kept phase record known other => rw [known]; rfl

end Tables

section Acknowledgements

variable {F Bytes : Type} [F64 F] (codec : Codec (NodeRecord F) Bytes) (config : DaemonConfig F)

theorem classify_measured (thresholds : Thresholds F) (report : MetricsReport F) :
    classify report thresholds ≠ .registered := by
  rw [classify]
  split_ifs <;> decide

-- The records of registrations are told from those of reports by their status.
theorem registered_write_iff (thresholds : Thresholds F) (state next : SharedState F Bytes) (call : Call F) (write : Write F)
    (updated : call.update thresholds state = .ok (next, write)) :
    (∃ record, write = .put record ∧ record.status = .registered) ↔ ∃ info now, call = .register info now := by
  cases call with
  | register info now =>
      cases updated
      exact iff_of_true ⟨_, rfl, rfl⟩ ⟨info, now, rfl⟩
  | deregister nodeId =>
      cases updated
      exact iff_of_false (by rintro ⟨_, written, _⟩; cases written) (by rintro ⟨_, _, same⟩; cases same)
  | ingest report now =>
      cases ingested : ingestTable thresholds report now state.nodes with
      | error failure => simp [Call.update, ingested, Except.map] at updated
      | ok result =>
          obtain ⟨nodes, record⟩ := result
          simp only [Call.update, ingested, Except.map, Except.ok.injEq, Prod.mk.injEq] at updated
          obtain ⟨_, rfl⟩ := updated
          obtain ⟨old, _, _, rfl⟩ := ingest_table_spec thresholds report now state.nodes nodes record ingested
          refine iff_of_false ?_ (by rintro ⟨_, _, same⟩; cases same)
          rintro ⟨_, written, registered⟩
          cases written
          exact classify_measured thresholds report registered

theorem register_acknowledged (lifetimes : Lifetimes F Bytes) (txn : Txn) (request : Pb.NodeInfo) (now clock : UInt64)
    (ack : RegisterAck) (state : SharedState F Bytes) (quiet : lifetimes.state.inFlight = [])
    (answered : Grpc.registerNode codec lifetimes.daemon txn request now lifetimes.state.daemon = (.ok ack, state)) :
    runFrom (lifetimesStep codec config) lifetimes
        [⟨.update (.register (nodeInfoFromPb request) now), clock⟩, ⟨.transact 0 txn, clock⟩] =
      some ⟨⟨state, []⟩, lifetimes.number, lifetimes.daemon,
        lifetimes.issued ++ [⟨lifetimes.number, ack.assignedNodeId, ack.clusterEpoch⟩]⟩ := by
  obtain ⟨⟨daemon, inFlight⟩, number, booted, issued⟩ := lifetimes
  cases quiet
  cases txn with
  | fails message => cases answered
  | commits =>
      cases answered
      have updated : lifetimesStep codec config ⟨⟨daemon, []⟩, number, booted, issued⟩
          ⟨.update (.register (nodeInfoFromPb request) now), clock⟩ =
            some ⟨⟨{ daemon with nodes := (registerTable (nodeInfoFromPb request) now daemon.nodes).1 },
              [.put (registerTable (nodeInfoFromPb request) now daemon.nodes).2]⟩, number, booted, issued⟩ :=
        congrArg (fun earlier => some (Lifetimes.mk _ number booted earlier)) (List.append_nil issued)
      rw [runFrom, updated]
      rfl

end Acknowledgements

section Detection

variable {F Bytes : Type} [F64 F] (codec : Codec (NodeRecord F) Bytes) (config : DaemonConfig F)

theorem serving_step (lifetimes next : Lifetimes F Bytes) (turn : Turn F) (serves : turn.phase ≠ .restart)
    (taken : lifetimesStep codec config lifetimes turn = some next) :
    overlapStep codec config lifetimes.state turn.phase = some next.state ∧ next.number = lifetimes.number ∧
      next.daemon = lifetimes.daemon ∧ next.issued = lifetimes.issued ++ lifetimes.acknowledged turn.phase := by
  obtain ⟨state, stepped, moved⟩ := Option.map_eq_some_iff.mp taken
  obtain ⟨phase, now⟩ := turn
  cases phase <;> first | exact absurd rfl serves | (subst moved; exact ⟨stepped, rfl, rfl, rfl⟩)

theorem restart_step (lifetimes next : Lifetimes F Bytes) (turn : Turn F) (restarts : turn.phase = .restart)
    (taken : lifetimesStep codec config lifetimes turn = some next) :
    bootstrap codec lifetimes.state.daemon.store = .ok next.state.daemon ∧ next.number = lifetimes.number + 1 ∧
      next.daemon.epoch = turn.now ∧ next.issued = lifetimes.issued := by
  obtain ⟨state, stepped, moved⟩ := Option.map_eq_some_iff.mp taken
  obtain ⟨phase, now⟩ := turn
  cases restarts
  obtain ⟨started, booted, rfl⟩ := Option.map_eq_some_iff.mp stepped
  subst moved
  exact ⟨(to_option_eq_some_iff _ _).mp booted, rfl, rfl, rfl⟩

theorem numbered_step (lifetimes next : Lifetimes F Bytes) (turn : Turn F) (before : Numbered lifetimes)
    (taken : lifetimesStep codec config lifetimes turn = some next) : Numbered next := by
  by_cases restarts : turn.phase = .restart
  · obtain ⟨_, number, _, issued⟩ := restart_step codec config lifetimes next turn restarts taken
    refine ⟨?_, ?_⟩
    · intro ack inside
      have past := before.past ack (issued ▸ inside)
      omega
    · intro ack inside own
      have past := before.past ack (issued ▸ inside)
      omega
  · obtain ⟨_, number, daemon, issued⟩ := serving_step codec config lifetimes next turn restarts taken
    refine ⟨?_, ?_⟩
    · intro ack inside
      rw [number]
      rw [issued] at inside
      rcases List.mem_append.mp inside with earlier | fresh
      · exact before.past ack earlier
      · exact Nat.le_of_eq (acknowledged_own lifetimes turn.phase ack fresh).1
    · intro ack inside own
      rw [number] at own
      rw [issued] at inside
      rw [daemon]
      rcases List.mem_append.mp inside with earlier | fresh
      · exact before.current ack earlier own
      · exact (acknowledged_own lifetimes turn.phase ack fresh).2

theorem serving_hides_iff (lifetimes next : Lifetimes F Bytes) (turn : Turn F) (serves : turn.phase ≠ .restart)
    (taken : lifetimesStep codec config lifetimes turn = some next) (ack : Issued) :
    ack ∈ next.issued ∧ next.Hides ack ↔ ack ∈ lifetimes.issued ∧ lifetimes.Hides ack := by
  obtain ⟨_, number, daemon, issued⟩ := serving_step codec config lifetimes next turn serves taken
  rw [Lifetimes.Hides]
  rw [number, daemon, issued, List.mem_append]
  apply Iff.intro
  · rintro ⟨earlier | fresh, older, alike⟩
    · exact ⟨earlier, older, alike⟩
    · have own := (acknowledged_own lifetimes turn.phase ack fresh).1
      omega
  · exact fun ⟨earlier, hidden⟩ => ⟨Or.inl earlier, hidden⟩

theorem restart_detects_iff (lifetimes next : Lifetimes F Bytes) (turn : Turn F) (before : Numbered lifetimes)
    (restarts : turn.phase = .restart) (taken : lifetimesStep codec config lifetimes turn = some next) :
    Detects next ↔ TellsApart codec lifetimes turn := by
  obtain ⟨booted, number, epoch, issued⟩ := restart_step codec config lifetimes next turn restarts taken
  rw [detects_iff next (numbered_step codec config lifetimes next turn before taken)]
  simp only [TellsApart, restarts, Lifetimes.Hides, number, epoch, issued,
    persisted_iff codec lifetimes.state.daemon.store next.state.daemon booted]
  apply Iff.intro
  · intro clear ack inside alike
    exact clear ack inside ⟨Nat.lt_succ_of_le (before.past ack inside), alike⟩
  · intro apart ack inside ⟨_, alike⟩
    exact apart ack inside alike

theorem serving_detects_iff (lifetimes next : Lifetimes F Bytes) (turn : Turn F) (before : Numbered lifetimes)
    (detects : Detects lifetimes) (serves : turn.phase ≠ .restart)
    (taken : lifetimesStep codec config lifetimes turn = some next) :
    Detects next ↔ TellsApart codec lifetimes turn := by
  have hides := serving_hides_iff codec config lifetimes next turn serves taken
  obtain ⟨stepped, _⟩ := serving_step codec config lifetimes next turn serves taken
  rw [detects_iff next (numbered_step codec config lifetimes next turn before taken)]
  have clear := (detects_iff lifetimes before).mp detects
  by_cases registers : ∃ info now, turn.phase = .update (.register info now)
  · obtain ⟨info, now, isRegister⟩ := registers
    have table (id : NodeId) : next.state.daemon.nodes.contains id ↔
        info.nodeId = id ∨ lifetimes.state.daemon.nodes.contains id := by
      rw [serving_contains_iff codec config lifetimes.state next.state turn.phase serves stepped id, isRegister,
        on_row_register, Std.ExtTreeMap.contains_eq_isSome_getElem?]
    simp only [TellsApart, isRegister]
    apply Iff.intro
    · intro nextClear ack inside hidden same
      obtain ⟨nextInside, nextHidden⟩ := (hides ack).mpr ⟨inside, hidden⟩
      exact nextClear ack nextInside nextHidden ((table ack.nodeId).mpr (Or.inl same.symm))
    · intro apart ack nextInside nextHidden present
      obtain ⟨inside, hidden⟩ := (hides ack).mp ⟨nextInside, nextHidden⟩
      rcases (table ack.nodeId).mp present with same | earlier
      · exact apart ack inside hidden same.symm
      · exact clear ack inside hidden earlier
  · have plain : TellsApart codec lifetimes turn := by
      rw [TellsApart]
      split
      · rename_i restarts
        exact absurd restarts serves
      · rename_i info now isRegister
        exact absurd ⟨info, now, isRegister⟩ registers
      · trivial
    refine iff_of_true ?_ plain
    intro ack nextInside nextHidden present
    obtain ⟨inside, hidden⟩ := (hides ack).mp ⟨nextInside, nextHidden⟩
    exact clear ack inside hidden
      (serving_shrinks codec config lifetimes.state next.state turn.phase serves registers stepped ack.nodeId present)

-- From any first instance on: every heartbeat of the run is answered as it should be exactly when every restart and every
-- registration of it tells the epochs apart.
theorem epochs_detected_iff (start : SharedState F Bytes) (clock : UInt64) (turns : List (Turn F)) :
    Throughout (lifetimesStep codec config) Detects ⟨⟨start, []⟩, 0, Instance.boot config clock, []⟩ turns ↔
      Obeys (lifetimesStep codec config) (TellsApart codec) ⟨⟨start, []⟩, 0, Instance.boot config clock, []⟩ turns := by
  apply throughout_iff_obeys (lifetimesStep codec config) Numbered Detects (TellsApart codec)
  case framed => exact fun lifetimes turn next before taken => numbered_step codec config lifetimes next turn before taken
  case exact_step =>
    intro lifetimes turn next before detects taken
    by_cases restarts : turn.phase = .restart
    · exact restart_detects_iff codec config lifetimes next turn before restarts taken
    · exact serving_detects_iff codec config lifetimes next turn before detects restarts taken
  case inFrame => constructor <;> (intro ack inside; cases inside)
  case initial => intro ack inside; cases inside

end Detection

def quickRestart : List (Turn ℚ) :=
  [⟨.update (.register (sampleInfo "n1") 1000), 1000⟩, ⟨.transact 0 .commits, 1000⟩, ⟨.restart, 1000⟩]

def firstLifetime : Lifetimes ℚ (Json ℚ) := ⟨⟨⟨∅, ∅, Store.fresh⟩, []⟩, 0, Instance.boot rationalConfig 1000, []⟩

def afterQuickRestart : Lifetimes ℚ (Json ℚ) :=
  (runFrom (lifetimesStep (jsonCodec rationalSerde) rationalConfig) firstLifetime quickRestart).getD firstLifetime

theorem quick_restart_undetected :
    runFrom (lifetimesStep (jsonCodec rationalSerde) rationalConfig) firstLifetime quickRestart = some afterQuickRestart ∧
      afterQuickRestart.issued = [⟨0, "n1", 1000⟩] ∧ afterQuickRestart.number = 1 ∧
      (Grpc.heartbeat afterQuickRestart.daemon ⟨"n1", 1000⟩ 1001 afterQuickRestart.state.daemon).1.toOption.map
        HeartbeatAck.directives = some [] ∧
      ¬ Detects afterQuickRestart := by
  have issued : afterQuickRestart.issued = [⟨0, "n1", 1000⟩] := by decide +kernel
  have number : afterQuickRestart.number = 1 := by decide +kernel
  have silent : (Grpc.heartbeat afterQuickRestart.daemon ⟨"n1", 1000⟩ 1001 afterQuickRestart.state.daemon).1.toOption.map
      HeartbeatAck.directives = some [] := by decide +kernel
  refine ⟨?_, issued, number, silent, ?_⟩
  · have ran : (runFrom (lifetimesStep (jsonCodec rationalSerde) rationalConfig) firstLifetime quickRestart).isSome = true := by
      decide +kernel
    obtain ⟨finish, reached⟩ := Option.isSome_iff_exists.mp ran
    rw [afterQuickRestart, reached, Option.getD_some]
  · intro detects
    obtain ⟨reply, sent, stale, _⟩ := detects ⟨0, "n1", 1000⟩ (by rw [issued]; exact List.mem_singleton_self _) 1001
    have directives : reply.directives = [] := by
      rw [sent] at silent
      exact Option.some.inj silent
    have asked := stale (by rw [number]; exact Nat.zero_lt_one)
    rw [directives] at asked
    cases asked

end Hpc.Daemon
