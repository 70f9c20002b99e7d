import Hpc.Agent.Executor
import Hpc.Wire.Proto

set_option autoImplicit false

namespace Hpc.Agent

open Hpc.Core Hpc.Wire Executor

-- A message on the command stream, with what a process started for it answers and the clock reading of its outcome.
structure Arrival where
  command : Pb.Command
  spawn : Argv → Spawn
  now : UInt64

structure Handled where
  command : Pb.Command
  outcome : Option CommandOutcome
  spawned : List Argv

-- handle_command up to the report of the outcome.
def executeCommand (executor : Executor) (arrival : Arrival) : Handled :=
  match arrival.command.payload with
  | some (.deploy d) => ⟨arrival.command, some (executor.runDeploy (deploySpecFromPb d) arrival.now), []⟩
  | some (.fs f) =>
      let (outcome, spawned) := executor.runFs (fsSpecFromPb f) arrival.spawn arrival.now
      ⟨arrival.command, some outcome, spawned⟩
  | none => ⟨arrival.command, none, []⟩

def payloadId : Pb.Payload → String
  | .deploy d => d.deploymentId
  | .fs f => f.commandId

theorem execute_command_same (executor : Executor) (arrival : Arrival) :
    (executeCommand executor arrival).command = arrival.command := by
  rw [executeCommand]
  cases arrival.command.payload with
  | none => rfl
  | some payload => cases payload <;> rfl

theorem execute_command_outcome (executor : Executor) (arrival : Arrival) (payload : Pb.Payload)
    (carried : arrival.command.payload = some payload) :
    ∃ outcome, (executeCommand executor arrival).outcome = some outcome ∧ outcome.commandId = payloadId payload ∧
      outcome.nodeId = executor.nodeId := by
  rw [executeCommand]
  rw [carried]
  cases payload with
  | deploy d => exact ⟨_, rfl, run_deploy_ids executor (deploySpecFromPb d) arrival.now⟩
  | fs f => exact ⟨_, rfl, run_fs_ids executor (fsSpecFromPb f) arrival.spawn arrival.now⟩

theorem execute_command_spawned (executor : Executor) (arrival : Arrival) (argv : Argv)
    (started : argv ∈ (executeCommand executor arrival).spawned) :
    executor.allowExec = true ∧
      ∃ f, arrival.command.payload = some (.fs f) ∧ buildArgv (fsSpecFromPb f) = .ok argv := by
  rw [executeCommand] at started
  cases carried : arrival.command.payload with
  | none => simp [carried] at started
  | some payload =>
      cases payload with
      | deploy d => simp [carried] at started
      | fs f =>
          simp only [carried, run_fs_spec] at started
          by_cases allowed : executor.allowExec = true
          · rw [if_pos allowed] at started
            cases built : buildArgv (fsSpecFromPb f) with
            | error message => simp [built, Except.toOption] at started
            | ok words =>
                have same : argv = words := by simpa [built, Except.toOption] using started
                exact ⟨allowed, f, rfl, by rw [same]; exact built⟩
          · simp [allowed] at started

end Hpc.Agent
