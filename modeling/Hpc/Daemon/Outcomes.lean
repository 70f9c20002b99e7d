import Hpc.Lib.Keyed
import Hpc.Lib.Sequencing
import Hpc.Daemon.Service

set_option autoImplicit false

namespace Hpc.Daemon

open Hpc.Core Hpc.Lib

section Operations

variable {F Bytes : Type} (outcomes : Codec CommandOutcome Bytes)

def recordOutcome (txn : Txn) (outcome : CommandOutcome) (state : SharedState F Bytes) :
    Except HpcError Unit × SharedState F Bytes :=
  match putOutcome outcomes txn outcome state.store with
  | .error failure => (.error failure, state)
  | .ok store => (.ok (), { state with store := store })

def listOutcomes (state : SharedState F Bytes) : Except HpcError (List CommandOutcome) := loadOutcomes outcomes state.store

end Operations

-- A run of the daemon together with the outcomes it has acknowledged, oldest first. Any operation on the nodes may come
-- between two reports, and restarts too.
structure Acknowledged (F Bytes : Type) where
  daemon : SharedState F Bytes
  recorded : List CommandOutcome

inductive Report (F : Type) where
  | outcome (txn : Txn) (outcome : CommandOutcome)
  | operation (operation : Operation F)

section Machine

variable {F Bytes : Type} [F64 F] (codec : Codec (NodeRecord F) Bytes) (outcomes : Codec CommandOutcome Bytes)
  (config : DaemonConfig F)

def reportStep (state : Acknowledged F Bytes) : Report F → Option (Acknowledged F Bytes)
  | .outcome txn outcome =>
      match recordOutcome outcomes txn outcome state.daemon with
      | (.error _, daemon) => some ⟨daemon, state.recorded⟩
      | (.ok _, daemon) => some ⟨daemon, state.recorded ++ [outcome]⟩
  | .operation operation => (serviceStep codec config state.daemon operation).map fun daemon => ⟨daemon, state.recorded⟩

def Tabulated (state : Acknowledged F Bytes) : Prop :=
  state.daemon.store.outcomes = (tabulate CommandOutcome.commandId state.recorded : StrMap CommandOutcome).map
    fun _ outcome => outcomes.toVec outcome

theorem service_step_outcomes (state next : SharedState F Bytes) (operation : Operation F)
    (taken : serviceStep codec config state operation = some next) : next.store.outcomes = state.store.outcomes := by
  cases operation with
  | register txn info now => cases taken; cases txn <;> rfl
  | ingest txn report now =>
      cases taken
      rw [ingestMetrics]
      cases ingestTable config.thresholds report now state.nodes with
      | error failure => rfl
      | ok result => cases txn <;> rfl
  | heartbeat nodeId now => cases taken; rw [heartbeat_next]
  | reap now => cases taken; rfl
  | deregister txn nodeId => cases taken; cases txn <;> rfl
  | restart =>
      have booted : bootstrap codec state.store = .ok next := (to_option_eq_some_iff _ _).mp taken
      obtain ⟨records, _, rfl⟩ := bootstrap_spec codec state.store next booted
      rfl

theorem report_step_tabulated (state next : Acknowledged F Bytes) (report : Report F) (before : Tabulated outcomes state)
    (taken : reportStep codec outcomes config state report = some next) : Tabulated outcomes next := by
  cases report with
  | outcome txn outcome =>
      cases txn with
      | fails message =>
          cases taken
          exact before
      | commits =>
          cases taken
          change state.daemon.store.outcomes.insert outcome.commandId _ = _
          rw [tabulate_append, map_insert, before]
  | operation operation =>
      obtain ⟨daemon, stepped, rfl⟩ := Option.map_eq_some_iff.mp taken
      exact (service_step_outcomes codec config state.daemon daemon operation stepped).trans before

end Machine

section Json

variable {F : Type}

theorem load_outcomes_tabulated (state : Acknowledged F (Json F)) (tabulated : Tabulated outcomeCodec state) :
    listOutcomes outcomeCodec state.daemon =
      .ok ((values (tabulate CommandOutcome.commandId state.recorded : StrMap CommandOutcome)).mergeSort
        fun a b => b.completedAtUnix ≤ a.completedAtUnix) := by
  have loaded : state.daemon.store.outcomes.toList.mapM
      (fun (row : String × Json F) => (outcomeCodec.fromSlice row.2).mapError HpcError.serde) =
        .ok (values (tabulate CommandOutcome.commandId state.recorded : StrMap CommandOutcome)) := by
    rw [tabulated, Std.ExtTreeMap.toList_map, List.mapM_map]
    apply mapM_of_eq _ Prod.snd
    intro row _
    exact congrArg (Except.mapError HpcError.serde) (read_write_outcome row.2)
  rw [listOutcomes, loadOutcomes, loaded]
  rfl

def AppendOnly (state : Acknowledged F (Json F)) : Prop :=
  ∃ listed, listOutcomes outcomeCodec state.daemon = .ok listed ∧ listed.Perm state.recorded ∧
    listed.Pairwise fun a b => b.completedAtUnix ≤ a.completedAtUnix

theorem newest_first (listed : List CommandOutcome) :
    (listed.mergeSort fun a b => b.completedAtUnix ≤ a.completedAtUnix).Pairwise
      fun a b => b.completedAtUnix ≤ a.completedAtUnix := by
  have transitive : IsTrans CommandOutcome fun a b => b.completedAtUnix ≤ a.completedAtUnix :=
    ⟨fun a b c first second => UInt64.le_trans second first⟩
  have total : Std.Total fun a b : CommandOutcome => b.completedAtUnix ≤ a.completedAtUnix :=
    ⟨fun a b => UInt64.le_total b.completedAtUnix a.completedAtUnix⟩
  exact List.pairwise_mergeSort' _ listed

theorem append_only_iff (state : Acknowledged F (Json F)) (tabulated : Tabulated outcomeCodec state) :
    AppendOnly state ↔ (state.recorded.map CommandOutcome.commandId).Nodup := by
  have ordered := List.mergeSort_perm (values (tabulate CommandOutcome.commandId state.recorded : StrMap CommandOutcome))
    fun a b => b.completedAtUnix ≤ a.completedAtUnix
  have loaded := load_outcomes_tabulated state tabulated
  have distinct : (values (tabulate CommandOutcome.commandId state.recorded : StrMap CommandOutcome)).Perm state.recorded ↔
      (state.recorded.map CommandOutcome.commandId).Nodup := tabulate_perm_iff _ _
  rw [← distinct]
  apply Iff.intro
  · intro ⟨listed, found, same, _⟩
    rw [loaded, Except.ok.injEq] at found
    rw [← found] at same
    exact ordered.symm.trans same
  · intro same
    exact ⟨_, loaded, ordered.trans same, newest_first _⟩

variable [F64 F] (serde : SerdeF64 F) (config : DaemonConfig F)

theorem tabulated_run (start : SharedState F (Json F)) (reports : List (Report F)) (finish : Acknowledged F (Json F))
    (booted : bootstrap (jsonCodec serde) Store.fresh = .ok start)
    (ran : runFrom (reportStep (jsonCodec serde) outcomeCodec config) ⟨start, []⟩ reports = some finish) :
    Tabulated outcomeCodec finish := by
  refine run_invariant _ (Tabulated outcomeCodec) (fun state report next before taken =>
    report_step_tabulated (jsonCodec serde) outcomeCodec config state next report before taken) _ _ _ ?_ ran
  obtain ⟨records, _, rfl⟩ := bootstrap_spec (jsonCodec serde) Store.fresh start booted
  rfl

theorem outcomes_append_only_iff (start : SharedState F (Json F)) (reports : List (Report F))
    (finish : Acknowledged F (Json F)) (booted : bootstrap (jsonCodec serde) Store.fresh = .ok start)
    (ran : runFrom (reportStep (jsonCodec serde) outcomeCodec config) ⟨start, []⟩ reports = some finish) :
    AppendOnly finish ↔ (finish.recorded.map CommandOutcome.commandId).Nodup :=
  append_only_iff finish (tabulated_run serde config start reports finish booted ran)

end Json

section Samples

def upgradeOn (nodeId : NodeId) (completedAtUnix : UInt64) : CommandOutcome :=
  ⟨"dep-1", nodeId, true, 0, "upgrade complete", "", "", completedAtUnix⟩

def reusedId : List (Report ExactF64) :=
  [.outcome .commits (upgradeOn "n1" 1000), .outcome .commits (upgradeOn "n2" 1001)]

def freshDaemon : SharedState ExactF64 (Json ExactF64) := ⟨∅, ∅, Store.fresh⟩

def afterReports (reports : List (Report ExactF64)) : Acknowledged ExactF64 (Json ExactF64) :=
  (runFrom (reportStep (jsonCodec exactSerde) outcomeCodec sampleConfig) ⟨freshDaemon, []⟩ reports).getD ⟨freshDaemon, []⟩

def scattered : List (Report ExactF64) :=
  [.outcome .commits ⟨"dep-2", "n1", true, 0, "", "", "", 1005⟩, .outcome (.fails "disk full") (upgradeOn "n2" 1006),
    .outcome .commits ⟨"dep-3", "n2", false, 1, "", "", "", 1001⟩, .operation .restart,
    .outcome .commits (upgradeOn "n1" 1009), .outcome .commits ⟨"dep-4", "n1", true, 0, "", "", "", 1007⟩]

theorem scattered_outcomes_listed :
    (afterReports scattered).recorded.map CommandOutcome.completedAtUnix = [1005, 1001, 1009, 1007] ∧
      AppendOnly (afterReports scattered) :=
  ⟨by decide, (outcomes_append_only_iff exactSerde sampleConfig freshDaemon scattered _ rfl rfl).mpr (by decide)⟩

theorem reused_id_overwrites :
    bootstrap (jsonCodec exactSerde) Store.fresh = .ok freshDaemon ∧
      runFrom (reportStep (jsonCodec exactSerde) outcomeCodec sampleConfig) ⟨freshDaemon, []⟩ reusedId =
        some (afterReports reusedId) ∧
      ¬ AppendOnly (afterReports reusedId) := by
  refine ⟨rfl, rfl, ?_⟩
  have tabulated : Tabulated outcomeCodec (afterReports reusedId) :=
    tabulated_run exactSerde sampleConfig freshDaemon reusedId _ rfl rfl
  intro promised
  exact absurd ((append_only_iff _ tabulated).mp promised) (by decide)

end Samples

end Hpc.Daemon
