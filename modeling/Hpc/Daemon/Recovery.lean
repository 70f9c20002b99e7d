import Hpc.Daemon.Service
import Hpc.Daemon.WriteThrough

set_option autoImplicit false

namespace Hpc.Daemon

open Hpc.Core Hpc.Lib

-- The daemon between two atomic steps of a sequential run, with the table as it was before the current call and what that
-- call has still to commit.
structure Running (F Bytes : Type) where
  daemon : SharedState F Bytes
  before : NodeTable F
  pending : Option (Write F)
  clock : UInt64

inductive Event (F : Type) where
  | call (call : Call F)
  | commit
  | heartbeat (nodeId : NodeId) (now : UInt64)
  | reap (now : UInt64)
  | crash

section Machine

variable {F Bytes : Type} [F64 F] (codec : Codec (NodeRecord F) Bytes) (config : DaemonConfig F)

-- The next operation starts only when the last one has committed, and the clock never goes back. A crash may come anywhere;
-- a restart follows it.
def runningStep (running : Running F Bytes) : Event F → Option (Running F Bytes)
  | .call call =>
      if running.pending.isNone ∧ running.clock ≤ call.reading running.clock then
        match call.update config.thresholds running.daemon with
        | .error _ => some { running with clock := call.reading running.clock }
        | .ok (daemon, write) => some ⟨daemon, running.daemon.nodes, some write, call.reading running.clock⟩
      else none
  | .commit => running.pending.map fun write =>
      { running with daemon := { running.daemon with store := write.commit codec running.daemon.store }, pending := none }
  | .heartbeat nodeId now =>
      if running.pending.isNone ∧ running.clock ≤ now then
        some { running with daemon := (heartbeat nodeId now running.daemon).2, clock := now }
      else none
  | .reap now =>
      if running.pending.isNone ∧ running.clock ≤ now then
        some { running with daemon := (reapStale config.nodeTimeout.asSecs now running.daemon).2, clock := now }
      else none
  | .crash => (bootstrap codec running.daemon.store).toOption.map fun daemon => ⟨daemon, daemon.nodes, none, running.clock⟩

def Lossless : Prop := ∀ record, codec.fromSlice (codec.toVec record) = .ok record

end Machine

section Shadows

variable {F Bytes : Type}

def Shadow (saved live : NodeRecord F) : Prop :=
  saved.info = live.info ∧ saved.latestMetrics = live.latestMetrics ∧ saved.lastSeenUnix ≤ live.lastSeenUnix

def Shadows (saved live : NodeTable F) : Prop := ∀ id : NodeId, Option.Rel Shadow saved[id]? live[id]?

theorem shadow_refl (record : NodeRecord F) : Shadow record record := ⟨rfl, rfl, UInt64.le_refl _⟩

theorem shadows_write (saved live : NodeTable F) (write : Write F) (shadows : Shadows saved live) :
    Shadows (write.onTable saved) (write.onTable live) := by
  intro id
  rw [write_lookup, write_lookup]
  by_cases same : write.nodeId = id
  · rw [if_pos same, if_pos same]
    cases write.record with
    | none => exact .none
    | some record => exact .some (shadow_refl record)
  · rw [if_neg same, if_neg same]
    exact shadows id

theorem shadows_map (saved live : NodeTable F) (change : NodeRecord F → NodeRecord F)
    (keeps : ∀ record, (change record).info = record.info ∧ (change record).lastSeenUnix = record.lastSeenUnix ∧
      (change record).latestMetrics = record.latestMetrics) (after : NodeTable F)
    (changed : ∀ id : NodeId, after[id]? = (live[id]?).map change) (shadows : Shadows saved live) : Shadows saved after := by
  intro id
  have here := shadows id
  rw [changed]
  cases found : live[id]? with
  | none => simpa [found] using here
  | some record =>
      obtain ⟨info, seen, sample⟩ := keeps record
      rw [found] at here
      cases present : saved[id]? with
      | none => rw [present] at here; cases here
      | some old =>
          rw [present] at here
          cases here with
          | some shadow =>
              obtain ⟨sameInfo, sameSample, fresher⟩ := shadow
              exact .some ⟨sameInfo.trans info.symm, sameSample.trans sample.symm, seen ▸ fresher⟩

theorem shadows_heartbeat (saved live : NodeTable F) (nodeId : NodeId) (now : UInt64)
    (past : ∀ (id : NodeId) (record : NodeRecord F), saved[id]? = some record → record.lastSeenUnix ≤ now)
    (shadows : Shadows saved live) :
    Shadows saved (((heartbeatTable nodeId now live).toOption).getD live) := by
  cases beaten : heartbeatTable nodeId now live with
  | error failure => exact shadows
  | ok next =>
      obtain ⟨record, found, rfl⟩ := heartbeat_table_spec nodeId now live next beaten
      intro id
      change Option.Rel Shadow saved[id]? (live.insert nodeId _)[id]?
      rw [lookup_insert]
      by_cases same : nodeId = id
      · have here := shadows id
        rw [if_pos same]
        rw [← same, found] at here
        rw [← same]
        cases present : saved[nodeId]? with
        | none => rw [present] at here; cases here
        | some old =>
            rw [present] at here
            cases here with
            | some shadow => exact .some ⟨shadow.1, shadow.2.1, past nodeId old present⟩
      · rw [if_neg same]
        exact shadows id

end Shadows

section Restart

variable {F Bytes : Type} (codec : Codec (NodeRecord F) Bytes)

theorem find_own_key (table : NodeTable F) (own : OwnKeys table) (id : NodeId) :
    (table.toList.map Prod.snd).reverse.find? (fun record => decide (record.info.nodeId = id)) = table[id]? := by
  have listed : ∀ record, record ∈ (table.toList.map Prod.snd).reverse → table[record.info.nodeId]? = some record := by
    intro record member
    obtain ⟨⟨key, value⟩, entry, rfl⟩ := List.mem_map.mp (List.mem_reverse.mp member)
    have present := Std.ExtTreeMap.mem_toList_iff_getElem?_eq_some.mp entry
    exact (own key value present).symm ▸ present
  cases found : (table.toList.map Prod.snd).reverse.find? fun record => decide (record.info.nodeId = id) with
  | some record =>
      have here := listed record (List.mem_of_find?_eq_some found)
      have key : record.info.nodeId = id := by simpa using List.find?_some found
      exact (key ▸ here).symm
  | none =>
      cases present : table[id]? with
      | none => rfl
      | some record =>
          have absent := List.find?_eq_none.mp found record (List.mem_reverse.mpr (List.mem_map.mpr
            ⟨(id, record), Std.ExtTreeMap.mem_toList_iff_getElem?_eq_some.mpr present, rfl⟩))
          exact absurd (own id record present) (by simpa using absent)

theorem load_nodes_lossless (lossless : Lossless codec) (store : Store Bytes) (table : NodeTable F)
    (written : store.nodes = rows codec table) : loadNodes codec store = .ok (table.toList.map Prod.snd) := by
  have decoded : ∀ record, decodeNode codec (codec.toVec record) = .ok record := by
    intro record
    rw [decodeNode, lossless record]
    rfl
  rw [load_nodes_rows codec store table written]
  simpa using mapM_of_eq _ id (table.toList.map Prod.snd) fun record _ => decoded record

theorem bootstrap_lossless (lossless : Lossless codec) (store : Store Bytes) (table : NodeTable F)
    (written : store.nodes = rows codec table) (own : OwnKeys table) :
    ∃ state, bootstrap codec store = .ok state ∧ state.store = store ∧
      ∀ id : NodeId, state.nodes[id]? = (table[id]?).map fun record => { record with status := .unreachable } := by
  refine ⟨⟨(table.toList.map Prod.snd).foldl hydrate ∅, ∅, store⟩, ?_, rfl, ?_⟩
  · rw [bootstrap, load_nodes_lossless codec lossless store table written]
    rfl
  · intro id
    change ((table.toList.map Prod.snd).foldl hydrate ∅)[id]? = _
    rw [hydrate_lookup, find_own_key table own]
    simp

end Restart

section Runs

variable {F Bytes : Type} (codec : Codec (NodeRecord F) Bytes)

def SeenBy (clock : UInt64) (table : NodeTable F) : Prop :=
  ∀ (id : NodeId) (record : NodeRecord F), table[id]? = some record → record.lastSeenUnix ≤ clock

def Fresher (saved live : NodeTable F) : Prop :=
  ∀ (id : NodeId) (old new : NodeRecord F), saved[id]? = some old → live[id]? = some new → old.lastSeenUnix ≤ new.lastSeenUnix

-- What is on disk shadows the table in memory, or, while a commit is due, the table before the call; the commit then brings
-- it level with the one after.
structure Tracked (running : Running F Bytes) (saved : NodeTable F) : Prop where
  written : running.daemon.store.nodes = rows codec saved
  ownDisk : OwnKeys saved
  ownMemory : OwnKeys running.daemon.nodes
  idle : running.pending = none → Shadows saved running.daemon.nodes
  busy : ∀ write, running.pending = some write →
    Shadows saved running.before ∧ Shadows (write.onTable saved) running.daemon.nodes
  fresher : Fresher saved running.daemon.nodes
  disk : SeenBy running.clock saved
  memory : SeenBy running.clock running.daemon.nodes

theorem shadows_fresher (saved live : NodeTable F) (shadows : Shadows saved live) : Fresher saved live := by
  intro id old new savedHere liveHere
  have here := shadows id
  rw [savedHere, liveHere] at here
  cases here with
  | some shadow => exact shadow.2.2

theorem seen_by_mono (early late : UInt64) (table : NodeTable F) (order : early ≤ late) (seen : SeenBy early table) :
    SeenBy late table :=
  fun id record found => UInt64.le_trans (seen id record found) order

theorem seen_by_write (clock : UInt64) (table : NodeTable F) (write : Write F) (seen : SeenBy clock table)
    (fresh : ∀ record, write.record = some record → record.lastSeenUnix ≤ clock) : SeenBy clock (write.onTable table) := by
  intro id record found
  rw [write_lookup] at found
  by_cases same : write.nodeId = id
  · rw [if_pos same] at found
    exact fresh record found
  · rw [if_neg same] at found
    exact seen id record found

theorem fresher_write (saved live : NodeTable F) (write : Write F) (fresher : Fresher saved live)
    (fresh : ∀ (id : NodeId) (old new : NodeRecord F), saved[id]? = some old → write.record = some new →
      old.lastSeenUnix ≤ new.lastSeenUnix) : Fresher saved (write.onTable live) := by
  intro id old new savedHere found
  rw [write_lookup] at found
  by_cases same : write.nodeId = id
  · rw [if_pos same] at found
    exact fresh id old new savedHere found
  · rw [if_neg same] at found
    exact fresher id old new savedHere found

theorem shadows_seen (saved live : NodeTable F) (clock : UInt64) (shadows : Shadows saved live) (seen : SeenBy clock live) :
    SeenBy clock saved := by
  intro id old savedHere
  have here := shadows id
  rw [savedHere] at here
  cases liveHere : live[id]? with
  | none => rw [liveHere] at here; cases here
  | some new =>
      rw [liveHere] at here
      cases here with
      | some shadow => exact UInt64.le_trans shadow.2.2 (seen id new liveHere)

theorem tracked_bootstrap (lossless : Lossless codec) (store : Store Bytes) (saved : NodeTable F) (clock : UInt64)
    (state : SharedState F Bytes) (written : store.nodes = rows codec saved) (own : OwnKeys saved)
    (seen : SeenBy clock saved) (booted : bootstrap codec store = .ok state) :
    Tracked codec ⟨state, state.nodes, none, clock⟩ saved := by
  obtain ⟨same, found, store, lookup⟩ := bootstrap_lossless codec lossless store saved written own
  cases found.symm.trans booted
  have shadows : Shadows saved state.nodes := by
    refine shadows_map saved saved (fun record => { record with status := .unreachable }) (fun _ => ⟨rfl, rfl, rfl⟩) _
      lookup ?_
    intro id
    cases saved[id]? with
    | none => exact .none
    | some record => exact .some (shadow_refl record)
  have origin : ∀ (id : NodeId) (record : NodeRecord F), state.nodes[id]? = some record →
      ∃ old, saved[id]? = some old ∧ { old with status := .unreachable } = record :=
    fun id record present => Option.map_eq_some_iff.mp ((lookup id).symm.trans present)
  refine ⟨by rw [store]; exact written, own, ?own, fun _ => shadows, (fun _ due => nomatch due), shadows_fresher _ _ shadows,
    seen, ?memory⟩
  case own =>
    intro id record present
    obtain ⟨old, here, rfl⟩ := origin id record present
    exact own id old here
  case memory =>
    intro id record present
    obtain ⟨old, here, rfl⟩ := origin id record present
    exact seen id old here

variable [F64 F] (config : DaemonConfig F)

theorem tracked_call (running next : Running F Bytes) (saved : NodeTable F) (call : Call F)
    (tracked : Tracked codec running saved) (taken : runningStep codec config running (.call call) = some next) :
    Tracked codec next saved := by
  simp only [runningStep] at taken
  by_cases enabled : running.pending.isNone ∧ running.clock ≤ call.reading running.clock
  · rw [if_pos enabled] at taken
    have quiet : running.pending = none := Option.isNone_iff_eq_none.mp enabled.1
    have shadows := tracked.idle quiet
    cases updated : call.update config.thresholds running.daemon with
    | error failure =>
        rw [updated] at taken
        cases taken
        exact ⟨tracked.written, tracked.ownDisk, tracked.ownMemory, tracked.idle, tracked.busy, tracked.fresher,
          seen_by_mono _ _ saved enabled.2 tracked.disk, seen_by_mono _ _ _ enabled.2 tracked.memory⟩
    | ok result =>
        obtain ⟨daemon, write⟩ := result
        rw [updated] at taken
        cases taken
        obtain ⟨_, nodes, store, seen⟩ := update_spec config.thresholds call running.daemon daemon write tracked.ownMemory updated
        have fresh : ∀ record, write.record = some record → record.lastSeenUnix = call.reading running.clock :=
          fun record written => seen record running.clock written
        have disk := seen_by_mono _ _ saved enabled.2 tracked.disk
        have memory := seen_by_mono _ _ running.daemon.nodes enabled.2 tracked.memory
        refine ⟨store ▸ tracked.written, tracked.ownDisk, ?own, (fun idle => nomatch idle), ?busy, ?fresher, disk, ?memory⟩
        case own => exact nodes ▸ write_own_keys write _ tracked.ownMemory
        case busy =>
          intro due pending
          cases pending
          exact ⟨shadows, nodes ▸ shadows_write saved running.daemon.nodes write shadows⟩
        case fresher =>
          change Fresher saved daemon.nodes
          rw [nodes]
          apply fresher_write saved running.daemon.nodes write tracked.fresher
          intro id old new savedHere written
          rw [fresh new written]
          exact disk id old savedHere
        case memory =>
          change SeenBy _ daemon.nodes
          rw [nodes]
          exact seen_by_write _ _ write memory fun record written => (fresh record written).symm ▸ UInt64.le_refl _
  · rw [if_neg enabled] at taken
    cases taken

theorem tracked_commit (running next : Running F Bytes) (saved : NodeTable F) (tracked : Tracked codec running saved)
    (taken : runningStep codec config running .commit = some next) : ∃ level, Tracked codec next level := by
  obtain ⟨write, due, rfl⟩ := Option.map_eq_some_iff.mp taken
  have level := (tracked.busy write due).2
  exact ⟨write.onTable saved, write_rows codec write saved _ tracked.written, write_own_keys write saved tracked.ownDisk,
    tracked.ownMemory, fun _ => level, (fun _ pending => nomatch pending), shadows_fresher _ _ level,
    shadows_seen _ _ _ level tracked.memory, tracked.memory⟩

theorem tracked_heartbeat (running next : Running F Bytes) (saved : NodeTable F) (nodeId : NodeId) (now : UInt64)
    (tracked : Tracked codec running saved) (taken : runningStep codec config running (.heartbeat nodeId now) = some next) :
    Tracked codec next saved := by
  simp only [runningStep] at taken
  by_cases enabled : running.pending.isNone ∧ running.clock ≤ now
  · rw [if_pos enabled] at taken
    cases taken
    have quiet : running.pending = none := Option.isNone_iff_eq_none.mp enabled.1
    have disk := seen_by_mono _ _ saved enabled.2 tracked.disk
    have memory := seen_by_mono _ _ running.daemon.nodes enabled.2 tracked.memory
    have beat := heartbeat_table_lookup nodeId now running.daemon.nodes
    have shadows := shadows_heartbeat saved running.daemon.nodes nodeId now disk (tracked.idle quiet)
    rw [heartbeat_next]
    refine ⟨tracked.written, tracked.ownDisk, ?own, fun _ => shadows, ?busy, shadows_fresher _ _ shadows, disk, ?memory⟩
    case own =>
      refine own_keys_map _ _ _ tracked.ownMemory (fun id record => ?_) beat
      by_cases same : nodeId = id
      · rw [if_pos same]
      · rw [if_neg same]
    case busy => exact fun write due => absurd (quiet ▸ due : none = some write) (by simp)
    case memory =>
      intro id record found
      obtain ⟨old, present, rfl⟩ := Option.map_eq_some_iff.mp ((beat id).symm.trans found)
      by_cases same : nodeId = id
      · rw [if_pos same]
        exact UInt64.le_refl now
      · rw [if_neg same]
        exact memory id old present
  · rw [if_neg enabled] at taken
    cases taken

theorem tracked_reap (running next : Running F Bytes) (saved : NodeTable F) (now : UInt64)
    (tracked : Tracked codec running saved) (taken : runningStep codec config running (.reap now) = some next) :
    Tracked codec next saved := by
  simp only [runningStep] at taken
  by_cases enabled : running.pending.isNone ∧ running.clock ≤ now
  · rw [if_pos enabled] at taken
    cases taken
    have quiet : running.pending = none := Option.isNone_iff_eq_none.mp enabled.1
    have disk := seen_by_mono _ _ saved enabled.2 tracked.disk
    have memory := seen_by_mono _ _ running.daemon.nodes enabled.2 tracked.memory
    have swept := reap_table_lookup config.nodeTimeout.asSecs now running.daemon.nodes
    have keeps := reap_record_fields (F := F) (saturatingSub now config.nodeTimeout.asSecs)
    have shadows := shadows_map saved running.daemon.nodes _ keeps _ swept (tracked.idle quiet)
    refine ⟨tracked.written, tracked.ownDisk, ?own, fun _ => shadows, ?busy, shadows_fresher _ _ shadows, disk, ?memory⟩
    case own => exact own_keys_map _ _ (fun _ => reapRecord _) tracked.ownMemory (fun _ record => (keeps record).1) swept
    case busy => exact fun write due => absurd (quiet ▸ due : none = some write) (by simp)
    case memory =>
      intro id record found
      obtain ⟨old, present, rfl⟩ := Option.map_eq_some_iff.mp ((swept id).symm.trans found)
      rw [(keeps old).2.1]
      exact memory id old present
  · rw [if_neg enabled] at taken
    cases taken

theorem tracked_step (lossless : Lossless codec) (running next : Running F Bytes) (event : Event F)
    (before : ∃ saved, Tracked codec running saved) (taken : runningStep codec config running event = some next) :
    ∃ saved, Tracked codec next saved := by
  obtain ⟨saved, tracked⟩ := before
  cases event with
  | call call => exact ⟨saved, tracked_call codec config running next saved call tracked taken⟩
  | commit => exact tracked_commit codec config running next saved tracked taken
  | heartbeat nodeId now => exact ⟨saved, tracked_heartbeat codec config running next saved nodeId now tracked taken⟩
  | reap now => exact ⟨saved, tracked_reap codec config running next saved now tracked taken⟩
  | crash =>
      obtain ⟨state, booted, rfl⟩ := Option.map_eq_some_iff.mp taken
      have started : bootstrap codec running.daemon.store = .ok state := (to_option_eq_some_iff _ _).mp booted
      exact ⟨saved, tracked_bootstrap codec lossless _ saved running.clock state tracked.written tracked.ownDisk tracked.disk started⟩

theorem crash_recovers (lossless : Lossless codec) (store : Store Bytes) (saved : NodeTable F) (clock : UInt64)
    (start : SharedState F Bytes) (events : List (Event F)) (finish : Running F Bytes)
    (written : store.nodes = rows codec saved) (own : OwnKeys saved) (seen : SeenBy clock saved)
    (booted : bootstrap codec store = .ok start)
    (ran : runFrom (runningStep codec config) ⟨start, start.nodes, none, clock⟩ events = some finish) :
    ∃ recovered, bootstrap codec finish.daemon.store = .ok recovered ∧
      (∀ (id : NodeId) (record : NodeRecord F), recovered.nodes[id]? = some record → record.status = .unreachable) ∧
      (Shadows recovered.nodes finish.daemon.nodes ∨ finish.pending ≠ none ∧ Shadows recovered.nodes finish.before) ∧
      Fresher recovered.nodes finish.daemon.nodes := by
  have initial := tracked_bootstrap codec lossless store saved clock start written own seen booted
  obtain ⟨disk, tracked⟩ := run_invariant (runningStep codec config) (fun running => ∃ disk, Tracked codec running disk)
    (fun running event next before taken => tracked_step codec config lossless running next event before taken)
    _ finish events ⟨saved, initial⟩ ran
  obtain ⟨recovered, reloaded, _, lookup⟩ :=
    bootstrap_lossless codec lossless finish.daemon.store disk tracked.written tracked.ownDisk
  have restores : ∀ live, Shadows disk live → Shadows recovered.nodes live := by
    intro live shadows id
    have here := shadows id
    rw [lookup]
    cases found : disk[id]? with
    | none => simpa [found] using here
    | some record =>
        rw [found] at here
        cases present : live[id]? with
        | none => rw [present] at here; cases here
        | some current =>
            rw [present] at here
            cases here with
            | some shadow => exact .some shadow
  refine ⟨recovered, reloaded, bootstrap_unreachable codec _ recovered reloaded, ?_, ?_⟩
  · cases due : finish.pending with
    | none => exact Or.inl (restores _ (tracked.idle due))
    | some write => exact Or.inr ⟨by simp, restores _ (tracked.busy write due).1⟩
  · intro id loaded current present live
    obtain ⟨old, here, rfl⟩ := Option.map_eq_some_iff.mp ((lookup id).symm.trans present)
    exact tracked.fresher id old current here live

end Runs

section Samples

theorem rational_lossless : Lossless (jsonCodec rationalSerde) :=
  fun record => (read_write_record rationalSerde record).trans (record_traverse_self record)

def rationalStart : Running ℚ (Json ℚ) := ⟨⟨∅, ∅, Store.fresh⟩, ∅, none, 1000⟩

-- A registration reaches the disk, a heartbeat does not, and the crash comes after the update of a sample and before its
-- commit.
def interrupted : List (Event ℚ) :=
  [.call (.register (sampleInfo "n1") 1000), .commit, .heartbeat "n1" 1005,
    .call (.ingest ⟨"n1", 1006, ⟨12, [10, 14]⟩, ⟨100, 95, 5, 0, 0⟩, ⟨1, 1, 1⟩, [], ⟨0, 0, 0, 0⟩, []⟩ 1006)]

def afterInterrupted : Running ℚ (Json ℚ) :=
  (runFrom (runningStep (jsonCodec rationalSerde) rationalConfig) rationalStart interrupted).getD rationalStart

theorem interrupted_recovers :
    ∃ recovered, bootstrap (jsonCodec rationalSerde) afterInterrupted.daemon.store = .ok recovered ∧
      (∀ (id : NodeId) (record : NodeRecord ℚ), recovered.nodes[id]? = some record → record.status = .unreachable) ∧
      (Shadows recovered.nodes afterInterrupted.daemon.nodes ∨
        afterInterrupted.pending ≠ none ∧ Shadows recovered.nodes afterInterrupted.before) ∧
      Fresher recovered.nodes afterInterrupted.daemon.nodes :=
  crash_recovers (jsonCodec rationalSerde) rationalConfig rational_lossless Store.fresh ∅ 1000 ⟨∅, ∅, Store.fresh⟩
    interrupted afterInterrupted rfl (by simp [OwnKeys]) (by simp [SeenBy]) rfl rfl

end Samples

end Hpc.Daemon
