import Hpc.Core.Error
import Hpc.Core.Types

set_option autoImplicit false

namespace Hpc.Agent

open Hpc.Core

structure Executor where
  nodeId : String
  allowExec : Bool
deriving DecidableEq

-- What the operating system answers to a spawn. A process ended by a signal has no exit code, and its output is already
-- decoded.
inductive Spawn where
  | exited (code : Option Int32) (stdout stderr : String)
  | failed (error : String)

def debugAction : DeployAction → String
  | .install => "Install"
  | .upgrade => "Upgrade"
  | .rollback => "Rollback"
  | .remove => "Remove"

namespace Executor

def outcome (executor : Executor) (id : String) (success : Bool) (exitCode : Int32) (message : String) (now : UInt64) :
    CommandOutcome :=
  ⟨id, executor.nodeId, success, exitCode, message, "", "", now⟩

def runDeploy (executor : Executor) (spec : DeploySpec) (now : UInt64) : CommandOutcome :=
  let version := if spec.version = "" then "latest" else spec.version
  let target := if spec.targetPath = "" then "<default>" else spec.targetPath
  let message := debugAction spec.action ++ " " ++ spec.component ++ " v" ++ version ++ " -> " ++ target ++ " (simulated)"
  executor.outcome spec.deploymentId true 0 message now

-- The program and its arguments, so that an accepted argv is never empty.
structure Argv where
  program : String
  args : List String
deriving DecidableEq

def Argv.words (argv : Argv) : List String := argv.program :: argv.args

def Argv.joined (argv : Argv) : String := " ".intercalate argv.words

def buildArgv (spec : FsSpec) : Except String Argv :=
  let opts := ",".intercalate spec.mountOptions
  match spec.action with
  | .mount =>
      if spec.device = "" ∨ spec.mountPoint = "" then .error "mount requires device and mount_point"
      else .ok ⟨"mount", (if spec.fsType = "" then [] else ["-t", spec.fsType]) ++ (if opts = "" then [] else ["-o", opts]) ++
        [spec.device, spec.mountPoint]⟩
  | .unmount =>
      if spec.mountPoint = "" then .error "unmount requires mount_point" else .ok ⟨"umount", [spec.mountPoint]⟩
  | .remount =>
      if spec.mountPoint = "" then .error "remount requires mount_point"
      else .ok ⟨"mount", ["-o", if opts = "" then "remount" else "remount," ++ opts, spec.mountPoint]⟩
  | .check =>
      if spec.device = "" then .error "check requires device" else .ok ⟨"fsck", ["-n", spec.device]⟩
  | .format =>
      if spec.force = false then .error "format is destructive and requires force=true"
      else if spec.device = "" ∨ spec.fsType = "" then .error "format requires device and fs_type"
      else .ok ⟨"mkfs." ++ spec.fsType, [spec.device]⟩

def runFs (executor : Executor) (spec : FsSpec) (spawn : Argv → Spawn) (now : UInt64) : CommandOutcome × List Argv :=
  match buildArgv spec with
  | .error message => (executor.outcome spec.commandId false (-1) message now, [])
  | .ok argv =>
      if executor.allowExec = false then
        (executor.outcome spec.commandId true 0 ("dry-run: would execute `" ++ argv.joined ++ "`") now, [])
      else
        match spawn argv with
        | .exited code stdout stderr =>
            let exitCode := code.getD (-1)
            let outcome := executor.outcome spec.commandId (code == some 0) exitCode
              ("`" ++ argv.joined ++ "` exited with " ++ toString exitCode.toInt) now
            ({ outcome with stdout := stdout, stderr := stderr }, [argv])
        | .failed error =>
            (executor.outcome spec.commandId false (-1) ("failed to spawn `" ++ argv.joined ++ "`: " ++ error) now, [argv])

theorem run_deploy_ids (executor : Executor) (spec : DeploySpec) (now : UInt64) :
    (executor.runDeploy spec now).commandId = spec.deploymentId ∧ (executor.runDeploy spec now).nodeId = executor.nodeId :=
  ⟨rfl, rfl⟩

theorem run_fs_spec (executor : Executor) (spec : FsSpec) (spawn : Argv → Spawn) (now : UInt64) :
    (executor.runFs spec spawn now).2 =
      if executor.allowExec = true then ((buildArgv spec).toOption).toList else [] := by
  rw [runFs]
  cases built : buildArgv spec with
  | error message => simp [Except.toOption]
  | ok argv =>
      cases allowed : executor.allowExec with
      | false => simp
      | true =>
          cases answer : spawn argv with
          | exited code stdout stderr => simp [answer, Except.toOption]
          | failed error => simp [answer, Except.toOption]

theorem run_fs_ids (executor : Executor) (spec : FsSpec) (spawn : Argv → Spawn) (now : UInt64) :
    (executor.runFs spec spawn now).1.commandId = spec.commandId ∧
      (executor.runFs spec spawn now).1.nodeId = executor.nodeId := by
  rw [runFs]
  cases buildArgv spec with
  | error message => exact ⟨rfl, rfl⟩
  | ok argv =>
      by_cases dry : executor.allowExec = false
      · simp [dry, outcome]
      · cases answer : spawn argv <;> simp [dry, answer, outcome]

theorem build_argv_mkfs (spec : FsSpec) (argv : Argv) (rest : String) (built : buildArgv spec = .ok argv)
    (named : argv.program = "mkfs." ++ rest) :
    spec.action = .format ∧ spec.force = true ∧ spec.device ≠ "" ∧ spec.fsType ≠ "" ∧ argv.program = "mkfs." ++ spec.fsType := by
  have letters := congrArg String.toList named
  rw [buildArgv] at built
  cases action : spec.action with
  | mount =>
      simp only [action] at built
      simp [← Except.ok.inj (passed_test built).2] at letters
  | unmount =>
      simp only [action] at built
      simp [← Except.ok.inj (passed_test built).2] at letters
  | remount =>
      simp only [action] at built
      simp [← Except.ok.inj (passed_test built).2] at letters
  | check =>
      simp only [action] at built
      simp [← Except.ok.inj (passed_test built).2] at letters
  | format =>
      simp only [action] at built
      obtain ⟨forced, rest⟩ := passed_test built
      obtain ⟨present, layout⟩ := passed_test rest
      obtain ⟨device, fsType⟩ := not_or.mp present
      exact ⟨rfl, by simpa using forced, device, fsType, by rw [← Except.ok.inj layout]⟩

end Executor

end Hpc.Agent
