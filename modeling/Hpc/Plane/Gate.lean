import Hpc.Agent.Client
import Hpc.Daemon.Api
import Hpc.Daemon.Grpc

set_option autoImplicit false

namespace Hpc.Plane

open Hpc.Core Hpc.Wire Hpc.Daemon Hpc.Agent Executor

inductive RestRequest where
  | deploy (id : NodeId) (req : DeployRequest)
  | fs (id : NodeId) (req : FsRequest)

structure RestCall where
  request : RestRequest
  uuid : String
  connected : Bool
  refusal : Option HpcError

def record (refusal : Option HpcError) (_ : NodeId) (cmd : NodeCommand) (log : List NodeCommand) :
    Except HpcError Unit × List NodeCommand :=
  match refusal with
  | none => (.ok (), log ++ [cmd])
  | some e => (.error e, log)

def serve (log : List NodeCommand) (call : RestCall) : List NodeCommand :=
  match call.request with
  | .deploy id req => (deploy (fun _ _ => call.connected) (record call.refusal) call.uuid id req log).2
  | .fs id req => (fsCommand (fun _ _ => call.connected) (record call.refusal) call.uuid id req log).2

def acceptedCommands (calls : List RestCall) : List NodeCommand := calls.foldl serve []

def Produced (calls : List RestCall) (message : Pb.Command) : Prop :=
  ∃ now, ∃ cmd ∈ acceptedCommands calls, message = toPbCommand now cmd

def Origin (call : RestCall) : NodeCommand → Prop
  | .deploy spec => ∃ id req, call.request = .deploy id req ∧ spec = req.spec call.uuid
  | .fs spec => ∃ id req, call.request = .fs id req ∧ spec = req.spec call.uuid ∧ ¬ (req.action = .format ∧ req.force = false)

theorem record_log (refusal : Option HpcError) (id : NodeId) (cmd other : NodeCommand) (log : List NodeCommand)
    (member : other ∈ (record refusal id cmd log).2) : other ∈ log ∨ other = cmd := by
  cases refusal with
  | none => simpa [record] using member
  | some e => exact Or.inl member

theorem serve_origin (log : List NodeCommand) (call : RestCall) (cmd : NodeCommand) (member : cmd ∈ serve log call) :
    cmd ∈ log ∨ Origin call cmd := by
  rw [serve] at member
  cases asked : call.request with
  | deploy id req =>
      simp only [asked] at member
      rcases deploy_state (fun _ _ => call.connected) (record call.refusal) call.uuid id req log with same | sent
      · exact Or.inl (same ▸ member)
      · rw [sent] at member
        rcases record_log call.refusal id _ cmd log member with old | rfl
        · exact Or.inl old
        · exact Or.inr ⟨id, req, asked, rfl⟩
  | fs id req =>
      simp only [asked] at member
      rcases fs_command_state (fun _ _ => call.connected) (record call.refusal) call.uuid id req log with same | sent
      · exact Or.inl (same ▸ member)
      · obtain ⟨guarded, sent⟩ := sent
        rw [sent] at member
        rcases record_log call.refusal id _ cmd log member with old | rfl
        · exact Or.inl old
        · exact Or.inr ⟨id, req, asked, rfl, guarded⟩

theorem accepted_origin (calls : List RestCall) (log : List NodeCommand) (cmd : NodeCommand)
    (member : cmd ∈ calls.foldl serve log) : cmd ∈ log ∨ ∃ call ∈ calls, Origin call cmd := by
  induction calls generalizing log with
  | nil => exact Or.inl member
  | cons call rest ih =>
      rcases ih (serve log call) member with early | ⟨later, present, origin⟩
      · rcases serve_origin log call cmd early with old | origin
        · exact Or.inl old
        · exact Or.inr ⟨call, List.mem_cons_self, origin⟩
      · exact Or.inr ⟨later, List.mem_cons_of_mem _ present, origin⟩

theorem produced_format (calls : List RestCall) (message : Pb.Command) (f : Pb.FsCommand)
    (produced : Produced calls message) (carried : message.payload = some (.fs f))
    (format : fsActionFromPb f.action = .format) :
    ∃ call ∈ calls, ∃ id req, call.request = .fs id req ∧ f = fsSpecToPb (req.spec call.uuid) ∧ req.action = .format ∧
      req.force = true := by
  obtain ⟨now, cmd, member, rfl⟩ := produced
  rcases accepted_origin calls [] cmd member with none | ⟨call, present, origin⟩
  · cases none
  · cases cmd with
    | deploy spec => simp [toPbCommand] at carried
    | fs spec =>
        obtain ⟨id, req, asked, rfl, guarded⟩ := origin
        have payload : fsSpecToPb (req.spec call.uuid) = f := by simpa [toPbCommand] using carried
        have action : req.action = .format := by
          rw [← payload] at format
          exact (fs_action_from_to_pb req.action).symm.trans format
        have forced : req.force = true := by simpa [action] using guarded
        exact ⟨call, present, id, req, asked, payload.symm, action, forced⟩

structure Gated (executor : Executor) (calls : List RestCall) (handled : Handled) : Prop where
  allowed : handled.spawned ≠ [] → executor.allowExec = true
  mkfs : ∀ argv ∈ handled.spawned, ∀ rest, argv.program = "mkfs." ++ rest →
    ∃ f, handled.command.payload = some (.fs f) ∧ f.action = Pb.FsAction.toI32 .format ∧ f.force = true ∧ f.device ≠ "" ∧
      f.fsType ≠ "" ∧ argv.program = "mkfs." ++ f.fsType ∧
      (Produced calls handled.command → ∃ call ∈ calls, ∃ id req, call.request = .fs id req ∧
        f = fsSpecToPb (req.spec call.uuid) ∧ req.action = .format ∧ req.force = true)
  quiet : ∀ payload, handled.command.payload = some payload →
    executor.allowExec = false ∨ (∃ f message, payload = .fs f ∧ buildArgv (fsSpecFromPb f) = .error message) →
    handled.spawned = [] ∧ ∃ outcome, handled.outcome = some outcome

theorem execute_command_gated (executor : Executor) (calls : List RestCall) (arrival : Arrival) :
    Gated executor calls (executeCommand executor arrival) := by
  have same := execute_command_same executor arrival
  refine ⟨?allowed, ?mkfs, ?quiet⟩
  case allowed =>
    intro started
    obtain ⟨argv, member⟩ := List.exists_mem_of_ne_nil _ started
    exact (execute_command_spawned executor arrival argv member).1
  case mkfs =>
    intro argv member rest named
    obtain ⟨_, f, carried, built⟩ := execute_command_spawned executor arrival argv member
    obtain ⟨action, force, device, fsType, program⟩ := build_argv_mkfs (fsSpecFromPb f) argv rest built named
    rw [same]
    exact ⟨f, carried, (fs_action_format_iff f.action).mp action, force, device, fsType, program,
      fun produced => produced_format calls arrival.command f produced carried action⟩
  case quiet =>
    intro payload carried held
    rw [same] at carried
    obtain ⟨outcome, reported, _⟩ := execute_command_outcome executor arrival payload carried
    refine ⟨?_, outcome, reported⟩
    by_contra started
    obtain ⟨argv, member⟩ := List.exists_mem_of_ne_nil _ started
    obtain ⟨allowed, f, found, built⟩ := execute_command_spawned executor arrival argv member
    rcases held with dry | ⟨g, message, rfl, refused⟩
    · rw [dry] at allowed
      cases allowed
    · rw [carried] at found
      cases found
      rw [refused] at built
      cases built

theorem destructive_commands_gated (executor : Executor) (calls : List RestCall) (arrivals : List Arrival) :
    ∀ handled ∈ arrivals.map (executeCommand executor), Gated executor calls handled := by
  intro handled member
  obtain ⟨arrival, _, rfl⟩ := List.mem_map.mp member
  exact execute_command_gated executor calls arrival

def formatRequest : FsRequest := ⟨some "c1", .format, "/dev/sdb1", "/mnt/data", "xfs", [], true⟩

def formatCall : RestCall := ⟨.fs "n1" formatRequest, "0", true, none⟩

def formatArrival : Arrival := ⟨toPbCommand 1000 (.fs (formatRequest.spec "0")), fun _ => .exited (some 0) "" "", 1001⟩

theorem forced_format_gated :
    Gated ⟨"n1", true⟩ [formatCall] (executeCommand ⟨"n1", true⟩ formatArrival) ∧
      (executeCommand ⟨"n1", true⟩ formatArrival).spawned = [⟨"mkfs.xfs", ["/dev/sdb1"]⟩] :=
  ⟨destructive_commands_gated ⟨"n1", true⟩ [formatCall] [formatArrival] _ List.mem_cons_self, by decide⟩

end Hpc.Plane
