import Hpc.Lib.Keyed
import Hpc.Lib.Sequencing
import Hpc.Daemon.Service
import Hpc.Daemon.WriteThrough

set_option autoImplicit false

namespace Hpc.Daemon

open Hpc.Core Hpc.Lib

-- The daemon as its clients drive it: any number of calls between the update of the table and their transaction, which may
-- come in any order, or fail. A restart loses what is in flight.
structure Overlapped (F Bytes : Type) where
  daemon : SharedState F Bytes
  inFlight : List (Write F)

inductive Phase (F : Type) where
  | update (call : Call F)
  | transact (index : Nat) (txn : Txn)
  | heartbeat (nodeId : NodeId) (now : UInt64)
  | reap (now : UInt64)
  | attach (nodeId : NodeId) (channel : ChannelId)
  | detach (nodeId : NodeId)
  | restart

section Machine

variable {F Bytes : Type} (codec : Codec (NodeRecord F) Bytes)

def Write.transact (txn : Txn) (store : Store Bytes) : Write F → Except HpcError (Store Bytes)
  | .put record => putNode codec txn record store
  | .delete nodeId => (deleteNode txn nodeId store).map Prod.snd

theorem transact_spec (write : Write F) (txn : Txn) (store next : Store Bytes)
    (done : write.transact codec txn store = .ok next) : next = write.commit codec store := by
  cases write with
  | put record =>
      cases txn with
      | commits => cases done; rfl
      | fails message => cases done
  | delete nodeId =>
      cases txn with
      | commits => cases done; rfl
      | fails message => cases done

variable [F64 F] (config : DaemonConfig F)

def overlapStep (state : Overlapped F Bytes) : Phase F → Option (Overlapped F Bytes)
  | .update call =>
      match call.update config.thresholds state.daemon with
      | .error _ => some state
      | .ok (daemon, write) => some ⟨daemon, state.inFlight ++ [write]⟩
  | .transact index txn => (state.inFlight[index]?).map fun write =>
      match write.transact codec txn state.daemon.store with
      | .error _ => ⟨state.daemon, state.inFlight.eraseIdx index⟩
      | .ok store => ⟨{ state.daemon with store := store }, state.inFlight.eraseIdx index⟩
  | .heartbeat nodeId now => some { state with daemon := (heartbeat nodeId now state.daemon).2 }
  | .reap now => some { state with daemon := (reapStale config.nodeTimeout.asSecs now state.daemon).2 }
  | .attach nodeId channel => some { state with daemon := attachCommandChannel nodeId channel state.daemon }
  | .detach nodeId => some { state with daemon := detachCommandChannel nodeId state.daemon }
  | .restart => (bootstrap codec state.daemon.store).toOption.map fun daemon => ⟨daemon, []⟩

-- One call after the other is a special case.
theorem service_step_overlapped (state next : SharedState F Bytes) (operation : Operation F)
    (taken : serviceStep codec config state operation = some next) :
    ∃ phases, runFrom (overlapStep codec config) ⟨state, []⟩ phases = some ⟨next, []⟩ := by
  cases operation with
  | register txn info now =>
      cases taken
      refine ⟨[.update (.register info now), .transact 0 txn], ?_⟩
      cases txn <;> rfl
  | ingest txn report now =>
      cases taken
      cases ingested : ingestTable config.thresholds report now state.nodes with
      | error failure =>
          exact ⟨[.update (.ingest report now)], by simp [runFrom, overlapStep, Call.update, ingestMetrics, ingested, Except.map]⟩
      | ok result =>
          refine ⟨[.update (.ingest report now), .transact 0 txn], ?_⟩
          cases txn <;>
            simp [runFrom, overlapStep, Call.update, ingestMetrics, ingested, Except.map, Write.transact, putNode]
  | heartbeat nodeId now => cases taken; exact ⟨[.heartbeat nodeId now], rfl⟩
  | reap now => cases taken; exact ⟨[.reap now], rfl⟩
  | deregister txn nodeId =>
      cases taken
      refine ⟨[.update (.deregister nodeId), .transact 0 txn], ?_⟩
      cases txn <;> rfl
  | restart =>
      refine ⟨[.restart], ?_⟩
      change (bootstrap codec state.store).toOption = some next at taken
      simp [runFrom, overlapStep, taken]

theorem service_run_overlapped (start finish : SharedState F Bytes) (operations : List (Operation F))
    (ran : runFrom (serviceStep codec config) start operations = some finish) :
    ∃ phases, runFrom (overlapStep codec config) ⟨start, []⟩ phases = some ⟨finish, []⟩ := by
  obtain ⟨phases, after, reached, rfl⟩ := run_simulated (serviceStep codec config) (overlapStep codec config)
    (fun lower state => lower = ⟨state, []⟩) (fun lower state operation next related taken => by
      subst related
      obtain ⟨phases, reached⟩ := service_step_overlapped codec config state next operation taken
      exact ⟨phases, _, reached, rfl⟩)
    start finish operations ⟨start, []⟩ rfl ran
  exact ⟨phases, reached⟩

def Phase.onRow (query : NodeId) (row : Option (NodeRecord F)) : Phase F → Option (NodeRecord F)
  | .update (.register info now) =>
      if info.nodeId = query then some ⟨info, .registered, now, row.bind NodeRecord.latestMetrics⟩ else row
  | .update (.ingest report now) =>
      if report.nodeId = query then row.map fun old => ⟨old.info, classify report config.thresholds, now, some report⟩ else row
  | .update (.deregister nodeId) => if nodeId = query then none else row
  | .heartbeat nodeId now => row.map fun record =>
      if nodeId = query then { record with
        lastSeenUnix := now
        status := if record.status = .unreachable then .healthy else record.status } else record
  | .reap now => row.map (reapRecord (saturatingSub now config.nodeTimeout.asSecs))
  | _ => row

theorem update_table (call : Call F) (state : SharedState F Bytes) (query : NodeId) :
    (match call.update config.thresholds state with
      | .error _ => state
      | .ok (next, _) => next).nodes[query]? = (Phase.update call).onRow config query state.nodes[query]? := by
  cases call with
  | register info now =>
      refine (register_table_lookup info now state.nodes query).trans ?_
      rw [register_table_record]
      by_cases same : info.nodeId = query
      · subst same
        rfl
      · simp only [Phase.onRow, if_neg same]
  | deregister nodeId => exact deregister_table_lookup nodeId state.nodes query
  | ingest report now =>
      refine Eq.trans ?_ (ingest_table_lookup config.thresholds report now state.nodes query)
      cases ingested : ingestTable config.thresholds report now state.nodes <;> simp [Call.update, ingested, Except.map, Except.toOption]

theorem serving_table (state next : Overlapped F Bytes) (phase : Phase F) (serves : phase ≠ .restart)
    (taken : overlapStep codec config state phase = some next) (query : NodeId) :
    next.daemon.nodes[query]? = phase.onRow config query state.daemon.nodes[query]? := by
  cases phase with
  | restart => exact absurd rfl serves
  | update call =>
      rw [← update_table config call state.daemon query]
      cases updated : call.update config.thresholds state.daemon with
      | error failure =>
          simp only [overlapStep, updated, Option.some.injEq] at taken
          rw [taken]
      | ok result =>
          simp only [overlapStep, updated, Option.some.injEq] at taken
          rw [← taken]
  | transact index txn =>
      obtain ⟨write, _, rfl⟩ := Option.map_eq_some_iff.mp taken
      cases write.transact codec txn state.daemon.store <;> rfl
  | heartbeat nodeId now =>
      cases taken
      rw [heartbeat_next]
      exact heartbeat_table_lookup nodeId now state.daemon.nodes query
  | reap now => cases taken; exact reap_table_lookup _ now state.daemon.nodes query
  | attach nodeId channel => cases taken; rfl
  | detach nodeId => cases taken; rfl

def Phase.subject : Phase F → Option NodeId
  | .update (.register info _) => some info.nodeId
  | .update (.ingest report _) => some report.nodeId
  | .heartbeat nodeId _ => some nodeId
  | _ => none

inductive RowChange (query : NodeId) (row : Option (NodeRecord F)) : Phase F → NodeRecord F → Prop
  | registered (info : NodeInfo) (now : UInt64) (own : info.nodeId = query) :
      RowChange query row (.update (.register info now)) ⟨info, .registered, now, row.bind NodeRecord.latestMetrics⟩
  | ingested (report : MetricsReport F) (now : UInt64) (old : NodeRecord F) (own : report.nodeId = query)
      (known : row = some old) :
      RowChange query row (.update (.ingest report now)) ⟨old.info, classify report config.thresholds, now, some report⟩
  | beaten (now : UInt64) (old : NodeRecord F) (known : row = some old) :
      RowChange query row (.heartbeat query now) { old with
        lastSeenUnix := now
        status := if old.status = .unreachable then .healthy else old.status }
  | reaped (now : UInt64) (old : NodeRecord F) (known : row = some old) :
      RowChange query row (.reap now) (reapRecord (saturatingSub now config.nodeTimeout.asSecs) old)
  | kept (phase : Phase F) (record : NodeRecord F) (known : row = some record) (other : phase.subject ≠ some query) :
      RowChange query row phase record

theorem on_row_change (phase : Phase F) (query : NodeId) (row : Option (NodeRecord F)) (record : NodeRecord F)
    (found : phase.onRow config query row = some record) : RowChange config query row phase record := by
  cases phase with
  | update call =>
      cases call with
      | register info now =>
          by_cases own : info.nodeId = query
          · rw [Phase.onRow, if_pos own] at found
            cases found
            exact .registered info now own
          · rw [Phase.onRow, if_neg own] at found
            exact .kept _ record found (by simpa [Phase.subject] using own)
      | ingest report now =>
          by_cases own : report.nodeId = query
          · rw [Phase.onRow, if_pos own] at found
            obtain ⟨old, known, rfl⟩ := Option.map_eq_some_iff.mp found
            exact .ingested report now old own known
          · rw [Phase.onRow, if_neg own] at found
            exact .kept _ record found (by simpa [Phase.subject] using own)
      | deregister nodeId =>
          by_cases own : nodeId = query
          · rw [Phase.onRow, if_pos own] at found
            cases found
          · rw [Phase.onRow, if_neg own] at found
            exact .kept _ record found (by simp [Phase.subject])
  | heartbeat nodeId now =>
      obtain ⟨old, known, rfl⟩ := Option.map_eq_some_iff.mp found
      by_cases own : nodeId = query
      · subst own
        rw [if_pos rfl]
        exact .beaten now old known
      · rw [if_neg own]
        exact .kept _ old known (by simpa [Phase.subject] using own)
  | reap now =>
      obtain ⟨old, known, rfl⟩ := Option.map_eq_some_iff.mp found
      exact .reaped now old known
  | transact index txn => exact .kept _ record found (by simp [Phase.subject])
  | attach nodeId channel => exact .kept _ record found (by simp [Phase.subject])
  | detach nodeId => exact .kept _ record found (by simp [Phase.subject])
  | restart => exact .kept _ record found (by simp [Phase.subject])

end Machine

-- A property of the single records that every writer keeps, under the id it is given.
structure RowInvariant {F Bytes : Type} [F64 F] (codec : Codec (NodeRecord F) Bytes) (thresholds : Thresholds F)
    (good : NodeId → NodeRecord F → Prop) : Prop where
  keyed : ∀ id record, good id record → record.info.nodeId = id
  registers : ∀ (info : NodeInfo) (now : UInt64) (old : Option (NodeRecord F)), (∀ record ∈ old, good info.nodeId record) →
    good info.nodeId ⟨info, .registered, now, old.bind NodeRecord.latestMetrics⟩
  ingests : ∀ (report : MetricsReport F) (now : UInt64) (old : NodeRecord F), good report.nodeId old →
    good report.nodeId ⟨old.info, classify report thresholds, now, some report⟩
  beats : ∀ id record (now : UInt64), good id record → good id { record with
    lastSeenUnix := now
    status := if record.status = .unreachable then .healthy else record.status }
  reaps : ∀ id record, good id record → good id { record with status := .unreachable }
  decodes : ∀ id record loaded, good id record → decodeNode codec (codec.toVec record) = .ok loaded →
    good id { loaded with status := .unreachable }

section Rows

variable {F Bytes : Type} (codec : Codec (NodeRecord F) Bytes) (good : NodeId → NodeRecord F → Prop)

structure AllRows (state : Overlapped F Bytes) : Prop where
  memory : Rowwise good state.daemon.nodes
  disk : Rowwise (fun id bytes => ∃ record, bytes = codec.toVec record ∧ good id record) state.daemon.store.nodes
  flying : ∀ write ∈ state.inFlight, ∀ record, write.record = some record → good write.nodeId record

theorem transact_rows (write : Write F) (store : Store Bytes)
    (disk : Rowwise (fun id bytes => ∃ record, bytes = codec.toVec record ∧ good id record) store.nodes)
    (flying : ∀ record, write.record = some record → good write.nodeId record) :
    Rowwise (fun id bytes => ∃ record, bytes = codec.toVec record ∧ good id record) (write.commit codec store).nodes := by
  cases write with
  | put record => exact rowwise_insert _ store.nodes record.info.nodeId _ disk ⟨record, rfl, flying record rfl⟩
  | delete nodeId => exact rowwise_erase _ store.nodes nodeId disk

variable [F64 F] (config : DaemonConfig F)

theorem serving_row (kept : RowInvariant codec config.thresholds good) (phase : Phase F) (query : NodeId)
    (row : Option (NodeRecord F)) (record : NodeRecord F) (before : ∀ old ∈ row, good query old)
    (change : RowChange config query row phase record) : good query record := by
  cases change with
  | registered info now own =>
      subst own
      exact kept.registers info now row before
  | ingested report now old own known =>
      subst own
      exact kept.ingests report now old (before old known)
  | beaten now old known => exact kept.beats query old now (before old known)
  | reaped now old known =>
      rw [reapRecord]
      split
      · exact kept.reaps query old (before old known)
      · exact before old known
  | kept phase record known other => exact before record known

theorem serving_rows (kept : RowInvariant codec config.thresholds good) (state next : Overlapped F Bytes) (phase : Phase F)
    (serves : phase ≠ .restart) (memory : Rowwise good state.daemon.nodes)
    (taken : overlapStep codec config state phase = some next) : Rowwise good next.daemon.nodes := by
  intro id record found
  rw [serving_table codec config state next phase serves taken id] at found
  exact serving_row codec good config kept phase id _ record (memory id) (on_row_change config phase id _ record found)

theorem bootstrap_rows (kept : RowInvariant codec config.thresholds good) (store : Store Bytes) (state : SharedState F Bytes)
    (disk : Rowwise (fun id bytes => ∃ record, bytes = codec.toVec record ∧ good id record) store.nodes)
    (booted : bootstrap codec store = .ok state) : Rowwise good state.nodes ∧ state.store = store := by
  obtain ⟨records, loaded, rfl⟩ := bootstrap_spec codec store state booted
  refine ⟨?_, rfl⟩
  intro id record found
  obtain ⟨source, member, key, rfl⟩ := hydrate_mem records id record found
  obtain ⟨⟨row, bytes⟩, present, decoded⟩ := mapM_result_mem _ store.nodes.toList records loaded source member
  obtain ⟨origin, rfl, held⟩ := disk row bytes (Std.ExtTreeMap.mem_toList_iff_getElem?_eq_some.mp present)
  have fresh := kept.decodes row origin source held decoded
  have same : source.info.nodeId = row := kept.keyed row { source with status := .unreachable } fresh
  rw [← key, same]
  exact fresh

theorem overlap_step_rows (kept : RowInvariant codec config.thresholds good) (state next : Overlapped F Bytes)
    (phase : Phase F) (before : AllRows codec good state) (taken : overlapStep codec config state phase = some next) :
    AllRows codec good next := by
  by_cases restarts : phase = .restart
  · subst restarts
    obtain ⟨daemon, booted, rfl⟩ := Option.map_eq_some_iff.mp taken
    have started : bootstrap codec state.daemon.store = .ok daemon := (to_option_eq_some_iff _ _).mp booted
    obtain ⟨memory, same⟩ := bootstrap_rows codec good config kept state.daemon.store daemon before.disk started
    exact ⟨memory, same ▸ before.disk, fun write member => by cases member⟩
  · have memory := serving_rows codec good config kept state next phase restarts before.memory taken
    cases phase with
    | restart => exact absurd rfl restarts
    | update call =>
        cases updated : call.update config.thresholds state.daemon with
        | error failure =>
            simp only [overlapStep, updated, Option.some.injEq] at taken
            exact taken ▸ before
        | ok result =>
            obtain ⟨daemon, write⟩ := result
            simp only [overlapStep, updated, Option.some.injEq] at taken
            subst taken
            have own : OwnKeys state.daemon.nodes := fun id record found => kept.keyed id record (before.memory id record found)
            obtain ⟨_, table, store, _⟩ := update_spec config.thresholds call state.daemon daemon write own updated
            refine ⟨memory, store ▸ before.disk, ?_⟩
            intro flying member record written
            rcases List.mem_append.mp member with earlier | last
            · exact before.flying flying earlier record written
            · -- What is written is what the table now holds.
              rw [List.mem_singleton.mp last] at written ⊢
              refine memory write.nodeId record ?_
              rw [table, write_lookup, if_pos rfl]
              exact written
    | transact index txn =>
        obtain ⟨write, found, rfl⟩ := Option.map_eq_some_iff.mp taken
        have flying := before.flying write (List.mem_of_getElem? found)
        have others : ∀ other ∈ state.inFlight.eraseIdx index, ∀ record, other.record = some record →
            good other.nodeId record := fun other member => before.flying other (List.mem_of_mem_eraseIdx member)
        cases done : write.transact codec txn state.daemon.store with
        | error failure => exact ⟨before.memory, before.disk, others⟩
        | ok store =>
            rw [transact_spec codec write txn state.daemon.store store done]
            exact ⟨before.memory, transact_rows codec good write state.daemon.store before.disk flying, others⟩
    | heartbeat nodeId now =>
        cases taken
        exact ⟨memory, by rw [heartbeat_next]; exact before.disk, before.flying⟩
    | reap now => cases taken; exact ⟨memory, before.disk, before.flying⟩
    | attach nodeId channel => cases taken; exact ⟨memory, before.disk, before.flying⟩
    | detach nodeId => cases taken; exact ⟨memory, before.disk, before.flying⟩

theorem overlap_run_rows (kept : RowInvariant codec config.thresholds good) (start : SharedState F Bytes)
    (phases : List (Phase F)) (finish : Overlapped F Bytes) (booted : bootstrap codec Store.fresh = .ok start)
    (ran : runFrom (overlapStep codec config) ⟨start, []⟩ phases = some finish) : AllRows codec good finish := by
  have empty : Rowwise (fun id bytes => ∃ record, bytes = codec.toVec record ∧ good id record)
      (Store.fresh : Store Bytes).nodes := rowwise_empty _
  obtain ⟨memory, same⟩ := bootstrap_rows codec good config kept Store.fresh start empty booted
  have initial : AllRows codec good ⟨start, []⟩ := ⟨memory, same ▸ empty, fun write member => by cases member⟩
  exact run_invariant _ (AllRows codec good)
    (fun state phase next before taken => overlap_step_rows codec good config kept state next phase before taken)
    _ finish phases initial ran

end Rows

end Hpc.Daemon
