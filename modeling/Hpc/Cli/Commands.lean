import Hpc.Daemon.Bodies

set_option autoImplicit false

namespace Hpc.Cli

open Hpc.Core Hpc.Lib Hpc.Daemon

inductive DeployActionArg where
  | install
  | upgrade
  | rollback
  | remove
deriving DecidableEq, Repr

def DeployActionArg.toAction : DeployActionArg → DeployAction
  | .install => .install
  | .upgrade => .upgrade
  | .rollback => .rollback
  | .remove => .remove

-- The subcommands that make a node do something: hpc node deploy, hpc fs mount and hpc fs unmount.
inductive Command where
  | deploy (id component version : String) (action : DeployActionArg) (targetPath : String) (opt : List (String × String))
  | mount (id device mountPoint fsType : String) (opt : List String)
  | unmount (id mountPoint : String)
deriving DecidableEq

def Command.id : Command → NodeId
  | .deploy id _ _ _ _ _ => id
  | .mount id _ _ _ _ => id
  | .unmount id _ => id

def parseKv (s : String) : Except String (String × String) :=
  match splitOnce '=' s.toList with
  | some (k, v) => if k ≠ [] then .ok (String.ofList k, String.ofList v) else .error ("expected key=value, got `" ++ s ++ "`")
  | none => .error ("expected key=value, got `" ++ s ++ "`")

theorem parse_kv_iff (s k v : String) : parseKv s = .ok (k, v) ↔ s = k ++ "=" ++ v ∧ k ≠ "" ∧ '=' ∉ k.toList := by
  have joined (head rest : List Char) :
      s.toList = head ++ '=' :: rest ↔ s = String.ofList head ++ "=" ++ String.ofList rest := by
    rw [← String.toList_inj]
    simp
  rw [parseKv]
  cases found : splitOnce '=' s.toList with
  | none =>
      refine iff_of_false (by intro same; cases same) ?_
      rintro ⟨whole, _, absent⟩
      have parts := (split_once_iff '=' s.toList k.toList v.toList).mpr ⟨(joined _ _).mpr (by simpa using whole), absent⟩
      rw [found] at parts
      cases parts
  | some parts =>
      obtain ⟨head, rest⟩ := parts
      obtain ⟨whole, absent⟩ := (split_once_iff '=' s.toList head rest).mp found
      simp only
      apply Iff.intro
      · intro accepted
        split at accepted
        · rename_i some
          cases accepted
          exact ⟨(joined head rest).mp whole, by simpa using some, by simpa using absent⟩
        · cases accepted
      · rintro ⟨same, key, free⟩
        have parts := (split_once_iff '=' s.toList k.toList v.toList).mpr ⟨(joined _ _).mpr (by simpa using same), free⟩
        rw [found] at parts
        cases parts
        rw [if_pos (by simpa using key), String.ofList_toList, String.ofList_toList]

-- The bodies the subcommands send. A serde_json map has its keys in ascending order, and the last of equal keys counts.
section Bodies

variable {F : Type}

def deployBody (component version : String) (action : DeployAction) (targetPath : String) (options : List (String × String)) :
    Json F :=
  .object [("action", writeDeployAction action), ("component", .string component),
    ("options", writeMap (Std.ExtTreeMap.ofList options)), ("target_path", .string targetPath), ("version", .string version)]

def mountBody (device mountPoint fsType : String) (options : List String) : Json F :=
  .object [("action", .string "mount"), ("device", .string device), ("fs_type", .string fsType),
    ("mount_options", .array (options.map .string)), ("mount_point", .string mountPoint)]

def unmountBody (mountPoint : String) : Json F := .object [("action", .string "unmount"), ("mount_point", .string mountPoint)]

theorem read_deploy_body (component version : String) (action : DeployAction) (targetPath : String)
    (options : List (String × String)) :
    readDeployRequest (deployBody component version action targetPath options : Json F) =
      .ok ⟨none, action, component, version, targetPath, Std.ExtTreeMap.ofList options⟩ := by
  simp [readDeployRequest, deployBody, required_cons, optional_cons, optional_nil, read_write_deploy_action, read_write_map,
    readString, ok_bind, pure, Except.pure]

theorem read_mount_body (device mountPoint fsType : String) (options : List String) :
    readFsRequest (mountBody device mountPoint fsType options : Json F) =
      .ok ⟨none, .mount, device, mountPoint, fsType, options, false⟩ := by
  have texts : options.mapM (fun text => readString (.string text : Json F)) = .ok options := by
    simpa using mapM_of_eq (fun text => readString (.string text : Json F)) id options fun _ _ => rfl
  simp [readFsRequest, mountBody, required_cons, optional_cons, optional_nil, readString, readFsAction, read_array_map,
    ok_bind, pure, Except.pure] at texts ⊢
  rw [texts]
  rfl

theorem read_unmount_body (mountPoint : String) :
    readFsRequest (unmountBody mountPoint : Json F) = .ok ⟨none, .unmount, "", mountPoint, "", [], false⟩ := by
  simp [readFsRequest, unmountBody, required_cons, optional_cons, optional_nil, readString, readFsAction, ok_bind, pure,
    Except.pure]

end Bodies

def Command.meaning (uuid : String) : Command → NodeCommand
  | .deploy _ component version action targetPath opt =>
      .deploy ⟨"dep-" ++ uuid, action.toAction, component, version, targetPath, Std.ExtTreeMap.ofList opt⟩
  | .mount _ device mountPoint fsType opt => .fs ⟨"fs-" ++ uuid, .mount, device, mountPoint, fsType, opt, false⟩
  | .unmount _ mountPoint => .fs ⟨"fs-" ++ uuid, .unmount, "", mountPoint, "", [], false⟩

def Command.subject : Command → String
  | .deploy _ component _ _ _ _ => component
  | .mount _ _ mountPoint _ _ => mountPoint
  | .unmount _ mountPoint => mountPoint

inductive Outcome where
  | rejected (message : String)
  | served (answer : Except ApiError DispatchAck)

section Requests

variable (F : Type) {S : Type} (isConnected : S → NodeId → Bool)
  (dispatch : NodeId → NodeCommand → S → Except HpcError Unit × S)

def postDeploy (uuid : String) (id : NodeId) (body : Json F) (state : S) : Outcome × S :=
  match readDeployRequest body with
  | .error message => (.rejected message, state)
  | .ok req =>
      let (answer, state) := deploy isConnected dispatch uuid id req state
      (.served answer, state)

def postFs (uuid : String) (id : NodeId) (body : Json F) (state : S) : Outcome × S :=
  match readFsRequest body with
  | .error message => (.rejected message, state)
  | .ok req =>
      let (answer, state) := fsCommand isConnected dispatch uuid id req state
      (.served answer, state)

-- The subcommand builds its body and posts it; the daemon draws the UUID.
def Command.invoke (uuid : String) (command : Command) (state : S) : Outcome × S :=
  match command with
  | .deploy id component version action targetPath opt =>
      postDeploy F isConnected dispatch uuid id (deployBody component version action.toAction targetPath opt) state
  | .mount id device mountPoint fsType opt =>
      postFs F isConnected dispatch uuid id (mountBody device mountPoint fsType opt) state
  | .unmount id mountPoint => postFs F isConnected dispatch uuid id (unmountBody mountPoint) state

def acknowledge (commandId : String) (id : NodeId) : Except HpcError Unit → Except ApiError DispatchAck
  | .ok _ => .ok ⟨true, commandId, id⟩
  | .error e => .error (ApiError.ofHpc e)

theorem post_deploy_spec (uuid : String) (id : NodeId) (body : Json F) (req : DeployRequest) (state : S)
    (read : readDeployRequest body = .ok req) :
    (∃ e, postDeploy F isConnected dispatch uuid id body state = (.served (.error e), state)) ∨
      trimsToEmpty req.component = false ∧ isConnected state id = true ∧
        postDeploy F isConnected dispatch uuid id body state =
          (.served (acknowledge (req.spec uuid).deploymentId id (dispatch id (.deploy (req.spec uuid)) state).1),
            (dispatch id (.deploy (req.spec uuid)) state).2) := by
  simp only [postDeploy, read, deploy]
  cases blank : trimsToEmpty req.component with
  | true => exact Or.inl ⟨_, rfl⟩
  | false =>
      cases connected : isConnected state id with
      | false => exact Or.inl ⟨_, rfl⟩
      | true =>
          refine Or.inr ⟨rfl, rfl, ?_⟩
          cases outcome : dispatch id (.deploy (req.spec uuid)) state with
          | mk answer next => cases answer <;> rfl

theorem post_fs_spec (uuid : String) (id : NodeId) (body : Json F) (req : FsRequest) (state : S)
    (read : readFsRequest body = .ok req) (harmless : req.action ≠ .format) :
    (∃ e, postFs F isConnected dispatch uuid id body state = (.served (.error e), state)) ∨
      trimsToEmpty req.mountPoint = false ∧ isConnected state id = true ∧
        postFs F isConnected dispatch uuid id body state =
          (.served (acknowledge (req.spec uuid).commandId id (dispatch id (.fs (req.spec uuid)) state).1),
            (dispatch id (.fs (req.spec uuid)) state).2) := by
  have unforced : ¬ (req.action = .format ∧ req.force = false) := fun both => harmless both.1
  simp only [postFs, read, fsCommand, if_neg unforced]
  cases blank : trimsToEmpty req.mountPoint with
  | true => exact Or.inl ⟨_, rfl⟩
  | false =>
      cases connected : isConnected state id with
      | false => exact Or.inl ⟨_, rfl⟩
      | true =>
          refine Or.inr ⟨rfl, rfl, ?_⟩
          cases outcome : dispatch id (.fs (req.spec uuid)) state with
          | mk answer next => cases answer <;> rfl

theorem invoke_spec (uuid : String) (command : Command) (state : S) :
    (∃ e, command.invoke F isConnected dispatch uuid state = (.served (.error e), state)) ∨
      trimsToEmpty command.subject = false ∧ isConnected state command.id = true ∧
        command.invoke F isConnected dispatch uuid state =
          (.served (acknowledge (command.meaning uuid).commandId command.id
            (dispatch command.id (command.meaning uuid) state).1), (dispatch command.id (command.meaning uuid) state).2) := by
  cases command with
  | deploy id component version action targetPath opt =>
      exact post_deploy_spec F isConnected dispatch uuid id _ _ state
        (read_deploy_body component version action.toAction targetPath opt)
  | mount id device mountPoint fsType opt =>
      exact post_fs_spec F isConnected dispatch uuid id _ _ state (read_mount_body device mountPoint fsType opt) nofun
  | unmount id mountPoint =>
      exact post_fs_spec F isConnected dispatch uuid id _ _ state (read_unmount_body mountPoint) nofun

end Requests

end Hpc.Cli
