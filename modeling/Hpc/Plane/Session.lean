import Hpc.Agent.Client
import Hpc.Daemon.Epoch
import Hpc.Lib.Progress
import Hpc.Wire.RoundTrip

set_option autoImplicit false

namespace Hpc.Plane

open Hpc.Core Hpc.Daemon Hpc.Lib Hpc.Wire

inductive Session where
  | dialing
  | registered (ack : RegisterAck)
  | streaming (ack : RegisterAck) (channel : ChannelId)

structure Site (F Bytes : Type) where
  state : Overlapped F Bytes
  daemon : Instance
  session : Session

inductive SiteLabel (F : Type) where
  | register (txn : Txn) (now : UInt64)
  | openStream (channel : ChannelId)
  | report (txn : Txn) (report : MetricsReport F) (now : UInt64)
  | command (arrival : Agent.Arrival) (txn : Txn)
  | heartbeat (now : UInt64)
  | streamEnds
  | transportFails
  | daemon (phase : Daemon.Phase F) (clock : UInt64)

section Machine

variable {F Bytes : Type} [F64 F] (codec : Codec (NodeRecord F) Bytes) (outcomes : Codec CommandOutcome Bytes)
variable (config : DaemonConfig F) (info : NodeInfo) (allowExec : Bool)

def Site.answered (site : Site F Bytes) (next : SharedState F Bytes) (session : Session) : Site F Bytes :=
  ⟨{ site.state with daemon := next }, site.daemon, session⟩

-- A session is connect, register, stream_commands, and then the loop, which ends with the first call that fails, with a
-- directive to register again, and with the stream. The stream ends once the registry has another channel for the node, or none;
-- the commands that it still holds by then come first.
def siteStep (site : Site F Bytes) : SiteLabel F → Option (Site F Bytes)
  | .register txn now =>
      match site.session with
      | .dialing =>
          match Grpc.registerNode codec site.daemon txn (nodeInfoToPb info) now site.state.daemon with
          | (.ok ack, next) => some (site.answered next (.registered ack))
          | (.error _, next) => some (site.answered next .dialing)
      | _ => none
  | .openStream channel =>
      match site.session with
      | .registered ack =>
          if site.state.daemon.nodes.contains info.nodeId then
            some (site.answered (attachCommandChannel info.nodeId channel site.state.daemon) (.streaming ack channel))
          else some { site with session := .dialing }
      | _ => none
  | .report txn report now =>
      match site.session with
      | .streaming _ _ =>
          match Grpc.reportMetrics codec config.thresholds
            [.ok (txn, metricsReportToPb { report with nodeId := info.nodeId }, now)] now site.state.daemon with
          | (.ok _, next) => some (site.answered next site.session)
          | (.error _, next) => some (site.answered next .dialing)
      | _ => none
  | .command arrival txn =>
      match site.session with
      | .streaming _ _ =>
          match (Agent.executeCommand ⟨info.nodeId, allowExec⟩ arrival).outcome with
          | none => some site
          | some outcome =>
              match Grpc.reportCommandResult outcomes txn (outcomeToPb outcome) site.state.daemon.store with
              | (.ok _, store) => some (site.answered { site.state.daemon with store := store } site.session)
              | (.error _, store) => some (site.answered { site.state.daemon with store := store } .dialing)
      | _ => none
  | .heartbeat now =>
      match site.session with
      | .streaming ack _ =>
          match Grpc.heartbeat site.daemon ⟨info.nodeId, ack.clusterEpoch⟩ now site.state.daemon with
          | (.ok reply, next) =>
              some (site.answered next (if reply.directives.contains "reregister" then .dialing else site.session))
          | (.error _, next) => some (site.answered next .dialing)
      | _ => none
  | .streamEnds =>
      match site.session with
      | .streaming _ channel =>
          if site.state.daemon.channels[info.nodeId]? = some channel then none else some { site with session := .dialing }
      | _ => none
  | .transportFails => some { site with session := .dialing }
  | .daemon phase clock => (overlapStep codec config site.state phase).map fun next =>
      match phase with
      | .restart => ⟨next, Instance.boot config clock, site.session⟩
      | _ => ⟨next, site.daemon, site.session⟩

-- Anything but a failure of the transport or of a write that the agent asks for, the end of the process, the removal of the node
-- and a change of its entry in the registry.
def Harmless : SiteLabel F → Prop
  | .report txn _ _ => txn = .commits
  | .command _ txn => txn = .commits
  | .transportFails => False
  | .daemon phase _ =>
      match phase with
      | .restart => False
      | .update (.deregister nodeId) => nodeId ≠ info.nodeId
      | .attach nodeId _ => nodeId ≠ info.nodeId
      | .detach nodeId => nodeId ≠ info.nodeId
      | _ => True
  | _ => True

-- Nothing is to be asked of the agent: the daemon knows it, by the epoch it goes by, and its stream is the one in use.
def Recognized (ack : RegisterAck) (site : Site F Bytes) : Prop :=
  (ack.clusterEpoch = 0 ∨ ack.clusterEpoch = site.daemon.epoch) ∧ site.state.daemon.nodes.contains info.nodeId = true

instance (ack : RegisterAck) (site : Site F Bytes) : Decidable (Recognized info ack site) :=
  inferInstanceAs (Decidable (_ ∧ _))

structure Attended (site : Site F Bytes) (ack : RegisterAck) (channel : ChannelId) : Prop where
  session : site.session = .streaming ack channel
  recognized : Recognized info ack site
  attached : site.state.daemon.channels[info.nodeId]? = some channel

def InSession (site : Site F Bytes) : Prop := ∃ ack channel, Attended info site ack channel

def Restored (site : Site F Bytes) : Prop :=
  ∃ ack channel record, Attended info site ack channel ∧ ack.clusterEpoch = site.daemon.epoch ∧
    site.state.daemon.nodes[info.nodeId]? = some record ∧ record.info = info ∧ record.status ≠ .unreachable

-- The steps by which an agent gets back into a session: its registration is written, its stream is opened, a heartbeat finds
-- that the daemon does not know it, or its stream ends.
def drives (site : Site F Bytes) : SiteLabel F → Bool
  | .register .commits _ => true
  | .openStream _ => true
  | .heartbeat _ =>
      match site.session with
      | .streaming ack _ => !decide (Recognized info ack site)
      | _ => false
  | .streamEnds => true
  | _ => false

-- How many of these steps are still to come. An acknowledgement of another instance is only found out in the loop.
def rank (site : Site F Bytes) : Nat :=
  match site.session with
  | .dialing => 2
  | .registered ack =>
      if ack.clusterEpoch = 0 ∨ ack.clusterEpoch = site.daemon.epoch then
        if site.state.daemon.nodes.contains info.nodeId then 1 else 3
      else 4
  | .streaming ack channel =>
      if Recognized info ack site ∧ site.state.daemon.channels[info.nodeId]? = some channel then 0 else 3

end Machine

section Rank

variable {F Bytes : Type} (info : NodeInfo)

theorem rank_dialing (site : Site F Bytes) (dialing : site.session = .dialing) : rank info site = 2 := by
  rw [rank, dialing]

theorem rank_registered (site : Site F Bytes) (ack : RegisterAck) (registered : site.session = .registered ack) :
    rank info site =
      if ack.clusterEpoch = 0 ∨ ack.clusterEpoch = site.daemon.epoch then
        if site.state.daemon.nodes.contains info.nodeId then 1 else 3
      else 4 := by
  rw [rank, registered]

theorem rank_streaming (site : Site F Bytes) (ack : RegisterAck) (channel : ChannelId)
    (streaming : site.session = .streaming ack channel) :
    rank info site =
      if Recognized info ack site ∧ site.state.daemon.channels[info.nodeId]? = some channel then 0 else 3 := by
  rw [rank, streaming]

theorem rank_most (site : Site F Bytes) : rank info site ≤ 4 := by
  cases standing : site.session with
  | dialing =>
      rw [rank_dialing info site standing]
      decide
  | registered ack =>
      rw [rank_registered info site ack standing]
      split_ifs <;> decide
  | streaming ack channel =>
      rw [rank_streaming info site ack channel standing]
      split_ifs <;> decide

theorem in_session_iff (site : Site F Bytes) : InSession info site ↔ rank info site = 0 := by
  apply Iff.intro
  · rintro ⟨ack, channel, streaming, recognized, attached⟩
    rw [rank_streaming info site ack channel streaming, if_pos ⟨recognized, attached⟩]
  · intro done
    cases standing : site.session with
    | dialing =>
        rw [rank_dialing info site standing] at done
        cases done
    | registered ack =>
        rw [rank_registered info site ack standing] at done
        split_ifs at done
    | streaming ack channel =>
        rw [rank_streaming info site ack channel standing] at done
        split_ifs at done with attended
        exact ⟨ack, channel, standing, attended.1, attended.2⟩

theorem rank_kept (site next : Site F Bytes) (session : next.session = site.session) (daemon : next.daemon = site.daemon)
    (kept : site.state.daemon.nodes.contains info.nodeId = true → next.state.daemon.nodes.contains info.nodeId = true)
    (channels : next.state.daemon.channels[info.nodeId]? = site.state.daemon.channels[info.nodeId]?) :
    rank info next ≤ rank info site := by
  cases standing : site.session with
  | dialing => rw [rank_dialing info site standing, rank_dialing info next (session.trans standing)]
  | registered ack =>
      rw [rank_registered info site ack standing, rank_registered info next ack (session.trans standing), daemon]
      by_cases present : site.state.daemon.nodes.contains info.nodeId = true
      · rw [if_pos present, if_pos (kept present)]
      · rw [if_neg present]
        split_ifs <;> decide
  | streaming ack channel =>
      rw [rank_streaming info site ack channel standing, rank_streaming info next ack channel (session.trans standing)]
      by_cases attended : Recognized info ack site ∧ site.state.daemon.channels[info.nodeId]? = some channel
      · obtain ⟨⟨epoch, present⟩, attached⟩ := attended
        rw [if_pos ⟨⟨daemon ▸ epoch, kept present⟩, channels.trans attached⟩]
        exact Nat.zero_le _
      · rw [if_neg attended]
        split_ifs <;> decide

end Rank

section Calls

variable {F Bytes : Type} [F64 F] (codec : Codec (NodeRecord F) Bytes) (outcomes : Codec CommandOutcome Bytes)
variable (config : DaemonConfig F) (info : NodeInfo) (allowExec : Bool)

theorem register_written (site : Site F Bytes) (dialing : site.session = .dialing) (now : UInt64) :
    ∃ written ack record,
      siteStep codec outcomes config info allowExec site (.register .commits now) =
          some (site.answered written (.registered ack)) ∧
        ack.clusterEpoch = site.daemon.epoch ∧ written.nodes[info.nodeId]? = some record ∧
        written.nodes.contains info.nodeId = true ∧ record.info = info ∧ record.status ≠ .unreachable := by
  let record : NodeRecord F := (registerTable info now site.state.daemon.nodes).2
  let written : SharedState F Bytes := ⟨(registerTable info now site.state.daemon.nodes).1, site.state.daemon.channels,
    site.state.daemon.store.insertNode codec record⟩
  have sent : nodeInfoFromPb (nodeInfoToPb info) = info := node_info_round_trips.decoded info
  have own : record = ⟨info, .registered, now, (site.state.daemon.nodes[info.nodeId]?).bind NodeRecord.latestMetrics⟩ :=
    register_table_record info now site.state.daemon.nodes
  have row : written.nodes[info.nodeId]? = some record := by
    refine (register_table_lookup info now site.state.daemon.nodes info.nodeId).trans ?_
    rw [if_pos rfl]
  refine ⟨written, ⟨true, info.nodeId, site.daemon.epoch, site.daemon.metricsIntervalSecs, "registered"⟩, record, ?_, rfl, row,
    ?_, by rw [own], ?_⟩
  · simp only [siteStep, dialing, Grpc.registerNode, sent]
    rfl
  · rw [Std.ExtTreeMap.contains_eq_isSome_getElem?, row]
    rfl
  · rw [own]
    exact NodeStatus.noConfusion

theorem register_unwritten (site : Site F Bytes) (dialing : site.session = .dialing) (message : String) (now : UInt64) :
    ∃ next, siteStep codec outcomes config info allowExec site (.register (.fails message) now) =
      some (site.answered next .dialing) := by
  simp only [siteStep, dialing, Grpc.registerNode]
  exact ⟨_, rfl⟩

theorem heartbeat_session (site : Site F Bytes) (ack : RegisterAck) (channel : ChannelId)
    (streaming : site.session = .streaming ack channel) (now : UInt64) :
    siteStep codec outcomes config info allowExec site (.heartbeat now) =
      some (site.answered (heartbeat info.nodeId now site.state.daemon).2
        (if Recognized info ack site then site.session else .dialing)) := by
  obtain ⟨reply, sent, asked⟩ := heartbeat_reply site.daemon ⟨info.nodeId, ack.clusterEpoch⟩ now site.state.daemon
  have next : (Grpc.heartbeat site.daemon ⟨info.nodeId, ack.clusterEpoch⟩ now site.state.daemon).2 =
      (heartbeat info.nodeId now site.state.daemon).2 := by
    rw [Grpc.heartbeat]
    cases heartbeat info.nodeId now site.state.daemon with
    | mk answer after => cases answer <;> rfl
  have outdated : reply.directives.contains "reregister" = true ↔ ¬ Recognized info ack site := by
    rw [List.contains_iff_mem, asked, Recognized, not_and_or, not_or]
  cases answered : Grpc.heartbeat site.daemon ⟨info.nodeId, ack.clusterEpoch⟩ now site.state.daemon with
  | mk answer after =>
      rw [answered] at sent next
      cases sent
      cases next
      simp only [siteStep, streaming, answered]
      by_cases recognized : Recognized info ack site
      · rw [if_pos recognized, if_neg fun directed => outdated.mp directed recognized]
      · rw [if_neg recognized, if_pos (outdated.mpr recognized)]

omit [F64 F] in
theorem heartbeat_keeps (nodeId : NodeId) (now : UInt64) (state : SharedState F Bytes) (id : NodeId) :
    (heartbeat nodeId now state).2.nodes.contains id = state.nodes.contains id ∧
      (heartbeat nodeId now state).2.channels = state.channels := by
  rw [heartbeat_next, Std.ExtTreeMap.contains_eq_isSome_getElem?, Std.ExtTreeMap.contains_eq_isSome_getElem?,
    heartbeat_table_lookup, Option.isSome_map]
  exact ⟨rfl, rfl⟩

theorem report_served (report : MetricsReport F) (now : UInt64) (state : SharedState F Bytes)
    (present : state.nodes.contains info.nodeId = true) :
    ∃ ack next, Grpc.reportMetrics codec config.thresholds
        [.ok (.commits, metricsReportToPb { report with nodeId := info.nodeId }, now)] now state = (.ok ack, next) ∧
      next.nodes.contains info.nodeId = true ∧ next.channels = state.channels := by
  have sent : metricsReportFromPb (metricsReportToPb { report with nodeId := info.nodeId }) =
      { report with nodeId := info.nodeId } := metrics_report_round_trips.decoded _
  rw [Std.ExtTreeMap.contains_eq_isSome_getElem?] at present
  obtain ⟨old, known⟩ := Option.isSome_iff_exists.mp present
  simp only [Grpc.reportMetrics, Grpc.reportStream, Grpc.reportItem, sent, ingestMetrics, ingestTable, known, putNode]
  refine ⟨_, _, rfl, ?_, rfl⟩
  simp

theorem on_row_stays (phase : Daemon.Phase F) (id : NodeId) (row : Option (NodeRecord F))
    (stays : phase ≠ .update (.deregister id)) (present : row.isSome = true) : (phase.onRow config id row).isSome = true := by
  cases phase with
  | update call =>
      cases call with
      | register other now => by_cases own : other.nodeId = id <;> simp [Daemon.Phase.onRow, own, present]
      | ingest report now => by_cases own : report.nodeId = id <;> simp [Daemon.Phase.onRow, own, present]
      | deregister nodeId =>
          have other : ¬ nodeId = id := fun own => stays (by rw [own])
          rw [Daemon.Phase.onRow, if_neg other]
          exact present
  | heartbeat nodeId now => simpa [Daemon.Phase.onRow] using present
  | reap now => simpa [Daemon.Phase.onRow] using present
  | _ => exact present

theorem serving_keeps (state next : Overlapped F Bytes) (phase : Daemon.Phase F) (clock : UInt64)
    (harmless : Harmless info (.daemon phase clock)) (taken : overlapStep codec config state phase = some next) :
    phase ≠ .restart ∧
      (state.daemon.nodes.contains info.nodeId = true → next.daemon.nodes.contains info.nodeId = true) ∧
      next.daemon.channels[info.nodeId]? = state.daemon.channels[info.nodeId]? := by
  have serves : phase ≠ .restart := by
    intro restarts
    rw [restarts] at harmless
    exact harmless
  have stays : phase ≠ .update (.deregister info.nodeId) := by
    intro removes
    rw [removes] at harmless
    exact harmless rfl
  refine ⟨serves, ?_, ?_⟩
  · intro present
    rw [serving_contains_iff codec config state next phase serves taken]
    rw [Std.ExtTreeMap.contains_eq_isSome_getElem?] at present
    exact on_row_stays config phase info.nodeId _ stays present
  · cases phase with
    | update call =>
        cases call with
        | register other now => cases taken; rfl
        | ingest report now =>
            cases ingested : ingestTable config.thresholds report now state.daemon.nodes <;>
              simp only [overlapStep, Call.update, ingested, Except.map, Option.some.injEq] at taken <;> rw [← taken]
        | deregister nodeId =>
            cases taken
            exact (lookup_erase _ _ _).trans (if_neg harmless)
    | transact index txn =>
        obtain ⟨write, _, rfl⟩ := Option.map_eq_some_iff.mp taken
        cases write.transact codec txn state.daemon.store <;> rfl
    | heartbeat nodeId now =>
        cases taken
        rw [heartbeat_next]
    | reap now => cases taken; rfl
    | attach nodeId channel =>
        cases taken
        exact (lookup_insert _ _ _ _).trans (if_neg harmless)
    | detach nodeId =>
        cases taken
        exact (lookup_erase _ _ _).trans (if_neg harmless)
    | restart => exact absurd rfl serves

end Calls

section Healing

variable {F Bytes : Type} [F64 F] (codec : Codec (NodeRecord F) Bytes) (outcomes : Codec CommandOutcome Bytes)
variable (config : DaemonConfig F) (info : NodeInfo) (allowExec : Bool)

theorem register_ranks (site next : Site F Bytes) (txn : Txn) (now : UInt64)
    (taken : siteStep codec outcomes config info allowExec site (.register txn now) = some next) :
    (drives info site (.register txn now)).toNat + rank info next ≤ rank info site := by
  cases dialing : site.session with
  | registered ack => simp [siteStep, dialing] at taken
  | streaming ack channel => simp [siteStep, dialing] at taken
  | dialing =>
      rw [rank_dialing info site dialing]
      cases txn with
      | fails message =>
          obtain ⟨state, stays⟩ := register_unwritten codec outcomes config info allowExec site dialing message now
          cases stays.symm.trans taken
          exact Nat.le_of_eq ((Nat.zero_add _).trans (rank_dialing info _ rfl))
      | commits =>
          obtain ⟨written, ack, _, answered, epoch, _, present, _⟩ :=
            register_written codec outcomes config info allowExec site dialing now
          cases answered.symm.trans taken
          have one : rank info (site.answered written (.registered ack)) = 1 := by
            rw [rank_registered info _ ack rfl]
            exact (if_pos (Or.inr epoch)).trans (if_pos present)
          rw [one]
          exact Nat.le_refl 2

theorem open_stream_ranks (site next : Site F Bytes) (channel : ChannelId)
    (taken : siteStep codec outcomes config info allowExec site (.openStream channel) = some next) :
    (drives info site (.openStream channel)).toNat + rank info next ≤ rank info site := by
  cases registered : site.session with
  | dialing => simp [siteStep, registered] at taken
  | streaming ack other => simp [siteStep, registered] at taken
  | registered ack =>
      rw [rank_registered info site ack registered]
      by_cases present : site.state.daemon.nodes.contains info.nodeId = true
      · simp only [siteStep, registered, present, if_true, Option.some.injEq] at taken
        subst taken
        have attached : (attachCommandChannel info.nodeId channel site.state.daemon).channels[info.nodeId]? = some channel :=
          (lookup_insert _ _ _ _).trans (if_pos rfl)
        rw [rank_streaming info (site.answered _ (.streaming ack channel)) ack channel rfl, if_pos present]
        by_cases epoch : ack.clusterEpoch = 0 ∨ ack.clusterEpoch = site.daemon.epoch
        · rw [if_pos epoch, if_pos ⟨⟨epoch, present⟩, attached⟩]
          exact Nat.le_refl _
        · rw [if_neg epoch, if_neg fun attended => epoch attended.1.1]
          exact Nat.le_refl _
      · simp only [siteStep, registered, present, if_false, Option.some.injEq, Bool.false_eq_true] at taken
        subst taken
        rw [rank_dialing info { site with session := .dialing } rfl, if_neg present]
        change 1 + 2 ≤ _
        split_ifs <;> decide

theorem heartbeat_ranks (site next : Site F Bytes) (now : UInt64)
    (taken : siteStep codec outcomes config info allowExec site (.heartbeat now) = some next) :
    (drives info site (.heartbeat now)).toNat + rank info next ≤ rank info site := by
  cases streaming : site.session with
  | dialing => simp [siteStep, streaming] at taken
  | registered ack => simp [siteStep, streaming] at taken
  | streaming ack channel =>
      cases (heartbeat_session codec outcomes config info allowExec site ack channel streaming now).symm.trans taken
      obtain ⟨kept, channels⟩ := heartbeat_keeps info.nodeId now site.state.daemon info.nodeId
      by_cases recognized : Recognized info ack site
      · have quiet : drives info site (.heartbeat now) = false := by simp [drives, streaming, recognized]
        rw [if_pos recognized, quiet, Bool.toNat_false, Nat.zero_add]
        exact rank_kept info site _ rfl rfl (fun present => kept.trans present) (by rw [Site.answered, channels])
      · have driving : drives info site (.heartbeat now) = true := by simp [drives, streaming, recognized]
        rw [if_neg recognized, driving, rank_streaming info site ack channel streaming,
          if_neg fun attended => recognized attended.1, rank_dialing info (site.answered _ .dialing) rfl]
        decide

-- A report is refused only to a node that is not in the table.
theorem report_ranks (site next : Site F Bytes) (report : MetricsReport F) (now : UInt64)
    (taken : siteStep codec outcomes config info allowExec site (.report .commits report now) = some next) :
    rank info next ≤ rank info site := by
  cases streaming : site.session with
  | dialing => simp [siteStep, streaming] at taken
  | registered ack => simp [siteStep, streaming] at taken
  | streaming ack channel =>
      by_cases present : site.state.daemon.nodes.contains info.nodeId = true
      · obtain ⟨reply, after, served, kept, channels⟩ := report_served codec config info report now site.state.daemon present
        simp only [siteStep, streaming, served, Option.some.injEq] at taken
        rw [← taken]
        exact rank_kept info site _ streaming.symm rfl (fun _ => kept) (by rw [Site.answered, channels])
      · have least : rank info site = 3 := by
          rw [rank_streaming info site ack channel streaming, if_neg fun attended => present attended.1.2]
        have most (state : SharedState F Bytes) (session : Session) (kind : session = site.session ∨ session = .dialing) :
            rank info (site.answered state session) ≤ 3 := by
          cases kind with
          | inl same =>
              rw [rank_streaming info _ ack channel (same.trans streaming)]
              split_ifs <;> decide
          | inr dialing =>
              rw [rank_dialing info _ dialing]
              decide
        rw [least]
        simp only [siteStep, streaming] at taken
        split at taken
        · cases taken
          exact most _ _ (Or.inl streaming.symm)
        · cases taken
          exact most _ _ (Or.inr rfl)

theorem command_ranks (site next : Site F Bytes) (arrival : Agent.Arrival)
    (taken : siteStep codec outcomes config info allowExec site (.command arrival .commits) = some next) :
    rank info next ≤ rank info site := by
  cases streaming : site.session with
  | dialing => simp [siteStep, streaming] at taken
  | registered ack => simp [siteStep, streaming] at taken
  | streaming ack channel =>
      cases produced : (Agent.executeCommand ⟨info.nodeId, allowExec⟩ arrival).outcome with
      | none =>
          simp only [siteStep, streaming, produced, Option.some.injEq] at taken
          rw [taken]
      | some outcome =>
          simp only [siteStep, streaming, produced, Grpc.reportCommandResult, putOutcome, Option.some.injEq] at taken
          rw [← taken]
          exact rank_kept info site _ streaming.symm rfl (fun present => present) rfl

theorem stream_end_ranks (site next : Site F Bytes)
    (taken : siteStep codec outcomes config info allowExec site .streamEnds = some next) :
    1 + rank info next ≤ rank info site := by
  cases streaming : site.session with
  | dialing => simp [siteStep, streaming] at taken
  | registered ack => simp [siteStep, streaming] at taken
  | streaming ack channel =>
      by_cases attached : site.state.daemon.channels[info.nodeId]? = some channel
      · simp [siteStep, streaming, attached] at taken
      · simp only [siteStep, streaming, attached, if_false, Option.some.injEq] at taken
        subst taken
        rw [rank_streaming info site ack channel streaming, if_neg fun attended => attached attended.2,
          rank_dialing info { site with session := .dialing } rfl]

-- No step but those that end a session adds to what is still to be done, and each of the driving ones takes one off.
theorem rank_step (site next : Site F Bytes) (label : SiteLabel F) (harmless : Harmless info label)
    (taken : siteStep codec outcomes config info allowExec site label = some next) :
    (drives info site label).toNat + rank info next ≤ rank info site := by
  cases label with
  | register txn now => exact register_ranks codec outcomes config info allowExec site next txn now taken
  | openStream channel => exact open_stream_ranks codec outcomes config info allowExec site next channel taken
  | heartbeat now => exact heartbeat_ranks codec outcomes config info allowExec site next now taken
  | streamEnds => exact stream_end_ranks codec outcomes config info allowExec site next taken
  | transportFails => exact absurd harmless id
  | report txn report now =>
      cases harmless
      exact (Nat.zero_add _).trans_le (report_ranks codec outcomes config info allowExec site next report now taken)
  | command arrival txn =>
      cases harmless
      exact (Nat.zero_add _).trans_le (command_ranks codec outcomes config info allowExec site next arrival taken)
  | daemon phase clock =>
      obtain ⟨state, stepped, same⟩ := Option.map_eq_some_iff.mp taken
      obtain ⟨serves, kept, channels⟩ := serving_keeps codec config info site.state state phase clock harmless stepped
      have still : next = ⟨state, site.daemon, site.session⟩ := by
        rw [← same]
        cases phase with
        | restart => exact absurd rfl serves
        | _ => rfl
      rw [still]
      exact (Nat.zero_add _).trans_le (rank_kept info site _ rfl rfl kept channels)

theorem driven_outside (site : Site F Bytes) (outside : ¬ InSession info site) (now : UInt64) (channel : ChannelId) :
    ∃ label ∈ [SiteLabel.register .commits now, .openStream channel, .heartbeat now, .streamEnds],
      drives info site label = true ∧ (siteStep codec outcomes config info allowExec site label).isSome = true := by
  cases standing : site.session with
  | dialing =>
      obtain ⟨_, _, _, answered, _⟩ := register_written codec outcomes config info allowExec site standing now
      exact ⟨.register .commits now, by simp, rfl, by rw [answered]; rfl⟩
  | registered ack =>
      refine ⟨.openStream channel, by simp, rfl, ?_⟩
      simp only [siteStep, standing]
      split_ifs <;> rfl
  | streaming ack own =>
      by_cases recognized : Recognized info ack site
      · have lost : ¬ site.state.daemon.channels[info.nodeId]? = some own :=
          fun attached => outside ⟨ack, own, standing, recognized, attached⟩
        refine ⟨.streamEnds, by simp, rfl, ?_⟩
        simp [siteStep, standing, lost]
      · refine ⟨.heartbeat now, by simp, by simp [drives, standing, recognized], ?_⟩
        rw [heartbeat_session codec outcomes config info allowExec site ack own standing]
        rfl

theorem dialing_restored (site : Site F Bytes) (dialing : site.session = .dialing) (now : UInt64) (channel : ChannelId) :
    ∃ finish, runFrom (siteStep codec outcomes config info allowExec) site [.register .commits now, .openStream channel] =
      some finish ∧ Restored info finish := by
  obtain ⟨written, ack, record, first, epoch, row, present, own, reachable⟩ :=
    register_written codec outcomes config info allowExec site dialing now
  have second : siteStep codec outcomes config info allowExec (site.answered written (.registered ack)) (.openStream channel) =
      some (site.answered (attachCommandChannel info.nodeId channel written) (.streaming ack channel)) := by
    simp only [siteStep, Site.answered, present, if_true]
  refine ⟨_, (run_cons _ _ _ _ _).mpr ⟨_, first, (run_cons _ _ _ _ _).mpr ⟨_, second, rfl⟩⟩,
    ack, channel, record, ⟨rfl, ⟨Or.inr epoch, present⟩, ?_⟩, epoch, row, own, reachable⟩
  exact (lookup_insert _ _ _ _).trans (if_pos rfl)

theorem session_stays (site : Site F Bytes) (labels : List (SiteLabel F)) (harmless : ∀ label ∈ labels, Harmless info label)
    (inSession : InSession info site) :
    Throughout (siteStep codec outcomes config info allowExec) (InSession info) site labels := by
  induction labels generalizing site with
  | nil => exact inSession
  | cons label rest ih =>
      refine ⟨inSession, fun next taken => ?_⟩
      have paid := rank_step codec outcomes config info allowExec site next label (harmless label List.mem_cons_self) taken
      rw [(in_session_iff info site).mp inSession] at paid
      exact ih next (fun other member => harmless other (List.mem_cons_of_mem _ member))
        ((in_session_iff info next).mpr (by omega))

def HealsIn (budget : Nat) (site : Site F Bytes) : Prop :=
  ∀ labels finish, (∀ label ∈ labels, Harmless info label) →
    runFrom (siteStep codec outcomes config info allowExec) site labels = some finish →
    counted (siteStep codec outcomes config info allowExec) (drives info) site labels ≤ budget ∧
      (counted (siteStep codec outcomes config info allowExec) (drives info) site labels = budget → InSession info finish)

theorem heals_in (budget : Nat) (site : Site F Bytes) (enough : rank info site ≤ budget) :
    HealsIn codec outcomes config info allowExec budget site := by
  intro labels finish harmless ran
  have paid := run_counted (siteStep codec outcomes config info allowExec) (Harmless info) (drives info) (rank info)
    (fun state label next allowed taken => rank_step codec outcomes config info allowExec state next label allowed taken)
    site finish labels harmless ran
  apply And.intro (by omega)
  intro spent
  exact (in_session_iff info finish).mpr (by omega)

-- The session heals itself, from every state of the agent and the daemon whatsoever: whatever else is called in between, four
-- driving calls of the agent bring it into session, two from where it dials, and short of that its next call is one of them. By
-- the two calls in a row it is in session under its own description, with the epoch of this instance. There it stays through
-- everything but what ends it, and a session of an instance that is gone, or of a node that has been removed, ends at its next
-- heartbeat.
theorem session_stabilizes (site : Site F Bytes) :
    HealsIn codec outcomes config info allowExec 4 site ∧
      (¬ InSession info site → ∀ now channel,
        ∃ label ∈ [SiteLabel.register .commits now, .openStream channel, .heartbeat now, .streamEnds],
          drives info site label = true ∧ (siteStep codec outcomes config info allowExec site label).isSome = true) ∧
      (site.session = .dialing → HealsIn codec outcomes config info allowExec 2 site ∧ ∀ now channel, ∃ finish,
        runFrom (siteStep codec outcomes config info allowExec) site [.register .commits now, .openStream channel] =
          some finish ∧ Restored info finish) ∧
      (InSession info site → ∀ labels, (∀ label ∈ labels, Harmless info label) →
        Throughout (siteStep codec outcomes config info allowExec) (InSession info) site labels) ∧
      ∀ ack channel now next, site.session = .streaming ack channel → ¬ Recognized info ack site →
        siteStep codec outcomes config info allowExec site (.heartbeat now) = some next → next.session = .dialing := by
  refine ⟨heals_in codec outcomes config info allowExec 4 site (rank_most info site),
    driven_outside codec outcomes config info allowExec site, ?_, ?_, ?_⟩
  · intro dialing
    exact ⟨heals_in codec outcomes config info allowExec 2 site (rank_dialing info site dialing).le,
      dialing_restored codec outcomes config info allowExec site dialing⟩
  · intro inSession labels harmless
    exact session_stays codec outcomes config info allowExec site labels harmless inSession
  · intro ack channel now next streaming unrecognized taken
    cases (heartbeat_session codec outcomes config info allowExec site ack channel streaming now).symm.trans taken
    exact if_neg unrecognized

end Healing

section Samples

def staleSite : Site ℚ (Json ℚ) :=
  { state := ⟨⟨(∅ : NodeTable ℚ).insert "n1" ⟨sampleInfo "n1", .unreachable, 1000, none⟩, ∅, Store.fresh⟩, []⟩
    daemon := Instance.boot rationalConfig 1001
    session := .registered ⟨true, "n1", 900, 10, "registered"⟩ }

def unmountOnce : Agent.Arrival :=
  ⟨toPbCommand 1003 (.fs ⟨"c1", .unmount, "", "/mnt/data", "", [], false⟩), fun _ => .exited (some 0) "" "", 1003⟩

def healingLabels : List (SiteLabel ℚ) :=
  [.openStream 3, .command unmountOnce .commits, .daemon (.update (.deregister "n2")) 0, .heartbeat 1005,
    .register (.fails "disk full") 1006, .daemon (.reap 1040) 0, .register .commits 1041, .openStream 4, .heartbeat 1046]

theorem healing_labels_run :
    (runFrom (siteStep (jsonCodec rationalSerde) outcomeCodec rationalConfig (sampleInfo "n1") false) staleSite
      healingLabels).isSome = true := by
  decide +kernel

theorem stale_site_heals :
    ∃ finish, runFrom (siteStep (jsonCodec rationalSerde) outcomeCodec rationalConfig (sampleInfo "n1") false) staleSite
      healingLabels = some finish ∧ InSession (sampleInfo "n1") finish := by
  obtain ⟨finish, ran⟩ := Option.isSome_iff_exists.mp healing_labels_run
  have harmless : ∀ label ∈ healingLabels, Harmless (sampleInfo "n1") label := by simp [healingLabels, Harmless, sampleInfo]
  have heals := (session_stabilizes (jsonCodec rationalSerde) outcomeCodec rationalConfig (sampleInfo "n1") false staleSite).1
    healingLabels finish harmless ran
  exact ⟨finish, ran, heals.2 (by decide +kernel)⟩

end Samples

end Hpc.Plane
