import Hpc.Core.Json
import Hpc.Daemon.Api
import Hpc.Daemon.Census

set_option autoImplicit false

namespace Hpc.Daemon

open Hpc.Core Hpc.Lib

-- The JSON bodies of the REST API, as the derived deserializers read requests and the derived serializers write answers.
section Actions

variable {F : Type}

def writeDeployAction : DeployAction → Json F
  | .install => .string "install"
  | .upgrade => .string "upgrade"
  | .rollback => .string "rollback"
  | .remove => .string "remove"

def readDeployAction : Json F → Except String DeployAction
  | .string "install" => .ok .install
  | .string "upgrade" => .ok .upgrade
  | .string "rollback" => .ok .rollback
  | .string "remove" => .ok .remove
  | _ => .error "unknown variant, expected a deploy action"

def readFsAction : Json F → Except String FsAction
  | .string "mount" => .ok .mount
  | .string "unmount" => .ok .unmount
  | .string "remount" => .ok .remount
  | .string "check" => .ok .check
  | .string "format" => .ok .format
  | _ => .error "unknown variant, expected a filesystem action"

def readOption {A : Type} (item : Json F → Except String A) : Json F → Except String (Option A)
  | .null => .ok none
  | value => (item value).map some

theorem read_write_deploy_action (action : DeployAction) : readDeployAction (writeDeployAction action : Json F) = .ok action := by
  cases action <;> rfl

end Actions

section Requests

variable {F : Type}

theorem optional_nil {A : Type} (query : String) (default : A) (item : Json F → Except String A) :
    Core.optional [] query default item = .ok default := rfl

def readDeployRequest : Json F → Except String DeployRequest
  | .object fields => do
      let deploymentId ← optional fields "deployment_id" none (readOption readString)
      let action ← optional fields "action" .install readDeployAction
      let component ← required fields "component" readString
      let version ← optional fields "version" "" readString
      let targetPath ← optional fields "target_path" "" readString
      let options ← optional fields "options" ∅ readMap
      return ⟨deploymentId, action, component, version, targetPath, options⟩
  | _ => .error "invalid type, expected struct DeployRequest"

def readFsRequest : Json F → Except String FsRequest
  | .object fields => do
      let commandId ← optional fields "command_id" none (readOption readString)
      let action ← required fields "action" readFsAction
      let device ← optional fields "device" "" readString
      let mountPoint ← required fields "mount_point" readString
      let fsType ← optional fields "fs_type" "" readString
      let mountOptions ← optional fields "mount_options" [] (readArray readString)
      let force ← optional fields "force" false readBool
      return ⟨commandId, action, device, mountPoint, fsType, mountOptions, force⟩
  | _ => .error "invalid type, expected struct FsRequest"

end Requests

inductive Response (F : Type) where
  | ok (body : Json F)
  | refused (status : StatusCode) (body : Json F)

section Answers

variable {F : Type}

def writeError (message : String) : Json F := .object [("error", .string message)]

def writeAck (ack : DispatchAck) : Json F :=
  .object [("accepted", .bool ack.accepted), ("command_id", .string ack.commandId), ("node_id", .string ack.nodeId)]

def writeClusterStatus (status : ClusterStatus) : Json F :=
  .object [("epoch", writeU64 status.epoch), ("total_nodes", .integer status.totalNodes), ("healthy", .integer status.healthy),
    ("degraded", .integer status.degraded), ("unreachable", .integer status.unreachable),
    ("connected_streams", .integer status.connectedStreams), ("server_time_unix", writeU64 status.serverTimeUnix)]

def ApiError.intoResponse (e : ApiError) : Response F := .refused e.status (writeError e.message)

def respond {A : Type} (write : A → Json F) : Except ApiError A → Response F
  | .ok value => .ok (write value)
  | .error e => e.intoResponse

def StatusCode.display : StatusCode → String
  | .badRequest => "400 Bad Request"
  | .notFound => "404 Not Found"
  | .conflict => "409 Conflict"
  | .internalServerError => "500 Internal Server Error"

end Answers

end Hpc.Daemon
