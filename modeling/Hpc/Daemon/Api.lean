import Hpc.Core.Text
import Hpc.Daemon.State

set_option autoImplicit false

namespace Hpc.Daemon

open Hpc.Core

inductive StatusCode where
  | badRequest
  | notFound
  | conflict
  | internalServerError
deriving DecidableEq, Repr

structure ApiError where
  status : StatusCode
  message : String
deriving DecidableEq, Repr

def ApiError.ofHpc (e : HpcError) : ApiError :=
  let status := match e with
    | .notFound _ => .notFound
    | .invalidState _ => .conflict
    | .configInvalid _ | .conversion _ => .badRequest
    | _ => .internalServerError
  ⟨status, e.display⟩

def trimsToEmpty (s : String) : Bool := s.toList.all isWhiteSpace

structure DeployRequest where
  deploymentId : Option String
  action : DeployAction
  component : String
  version : String
  targetPath : String
  options : StrMap String

structure FsRequest where
  commandId : Option String
  action : FsAction
  device : String
  mountPoint : String
  fsType : String
  mountOptions : List String
  force : Bool

structure DispatchAck where
  accepted : Bool
  commandId : String
  nodeId : String
deriving DecidableEq

def DeployRequest.spec (uuid : String) (req : DeployRequest) : DeploySpec :=
  ⟨req.deploymentId.getD ("dep-" ++ uuid), req.action, req.component, req.version, req.targetPath, req.options⟩

def FsRequest.spec (uuid : String) (req : FsRequest) : FsSpec :=
  ⟨req.commandId.getD ("fs-" ++ uuid), req.action, req.device, req.mountPoint, req.fsType, req.mountOptions, req.force⟩

-- The handlers over any state that says which nodes are connected and takes dispatches. A fresh UUID is given to each
-- request.
section Handlers

variable {S : Type} (isConnected : S → NodeId → Bool) (dispatch : NodeId → NodeCommand → S → Except HpcError Unit × S)

def deploy (uuid : String) (id : NodeId) (req : DeployRequest) (state : S) : Except ApiError DispatchAck × S :=
  if trimsToEmpty req.component then (.error ⟨.badRequest, "component must not be empty"⟩, state)
  else if isConnected state id = false then (.error ⟨.conflict, "node " ++ id ++ " is not connected"⟩, state)
  else
    match dispatch id (.deploy (req.spec uuid)) state with
    | (.error e, state) => (.error (ApiError.ofHpc e), state)
    | (.ok _, state) => (.ok ⟨true, (req.spec uuid).deploymentId, id⟩, state)

def fsCommand (uuid : String) (id : NodeId) (req : FsRequest) (state : S) : Except ApiError DispatchAck × S :=
  if trimsToEmpty req.mountPoint then (.error ⟨.badRequest, "mount_point must not be empty"⟩, state)
  else if req.action = .format ∧ req.force = false then
    (.error ⟨.badRequest, "format is destructive and requires force=true"⟩, state)
  else if isConnected state id = false then (.error ⟨.conflict, "node " ++ id ++ " is not connected"⟩, state)
  else
    match dispatch id (.fs (req.spec uuid)) state with
    | (.error e, state) => (.error (ApiError.ofHpc e), state)
    | (.ok _, state) => (.ok ⟨true, (req.spec uuid).commandId, id⟩, state)

theorem deploy_state (uuid : String) (id : NodeId) (req : DeployRequest) (state : S) :
    (deploy isConnected dispatch uuid id req state).2 = state ∨
      (deploy isConnected dispatch uuid id req state).2 = (dispatch id (.deploy (req.spec uuid)) state).2 := by
  rw [deploy]
  by_cases blank : trimsToEmpty req.component = true
  · simp [blank]
  · by_cases absent : isConnected state id = false
    · simp [blank, absent]
    · right
      rw [if_neg blank, if_neg absent]
      cases outcome : dispatch id (.deploy (req.spec uuid)) state with
      | mk answer next => cases answer <;> rfl

theorem fs_command_state (uuid : String) (id : NodeId) (req : FsRequest) (state : S) :
    (fsCommand isConnected dispatch uuid id req state).2 = state ∨
      ¬ (req.action = .format ∧ req.force = false) ∧
        (fsCommand isConnected dispatch uuid id req state).2 = (dispatch id (.fs (req.spec uuid)) state).2 := by
  rw [fsCommand]
  by_cases blank : trimsToEmpty req.mountPoint = true
  · simp [blank]
  · by_cases unforced : req.action = .format ∧ req.force = false
    · simp [blank, unforced]
    · by_cases absent : isConnected state id = false
      · simp [blank, unforced, absent]
      · right
        rw [if_neg blank, if_neg unforced, if_neg absent]
        apply And.intro unforced
        cases outcome : dispatch id (.fs (req.spec uuid)) state with
        | mk answer next => cases answer <;> rfl

end Handlers

end Hpc.Daemon
