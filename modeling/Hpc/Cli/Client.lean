import Hpc.Cli.Commands
import Hpc.Daemon.Routes
import Hpc.Monitor.Mirror

set_option autoImplicit false

namespace Hpc.Cli

open Hpc.Core Hpc.Daemon Hpc.Lib Hpc.Monitor

-- The base address, in which no slash is left at the end.
structure ApiClient where
  base : List Char
  trimmed : base.getLast? ≠ some '/'

def ApiClient.new (base : String) : ApiClient where
  base := base.toList.rdropWhile fun c => c = '/'
  trimmed ended := by
    have some : (base.toList.rdropWhile fun c => c = '/') ≠ [] := by
      intro empty
      rw [empty] at ended
      cases ended
    have kept := List.rdropWhile_last_not (fun c : Char => c = '/') base.toList some
    rw [List.getLast?_eq_some_getLast some, Option.some.injEq] at ended
    exact kept (decide_eq_true ended)

def ApiClient.url (api : ApiClient) (path : String) : String := String.ofList api.base ++ path

inductive ClientError where
  | refused (message : String)
  | undecodable (context cause : String)
deriving DecidableEq

structure ClusterStatus where
  totalNodes : Nat
  healthy : Nat
  degraded : Nat
  unreachable : Nat
  connectedStreams : Nat
deriving DecidableEq

structure DispatchAck where
  commandId : String
  nodeId : String
deriving DecidableEq

section Decode

variable {F A : Type}

def readErrorBody : Json F → Except String String
  | .object fields => required fields "error" readString
  | _ => .error "invalid type, expected struct ErrorBody"

-- The daemon counts in usize too, so no count of its is too large.
def readUsize : Json F → Except String Nat
  | .integer n => if 0 ≤ n then .ok n.toNat else .error "invalid value: integer, expected usize"
  | _ => .error "invalid type, expected usize"

def readClusterStatus : Json F → Except String ClusterStatus
  | .object fields => do
      let totalNodes ← required fields "total_nodes" readUsize
      let healthy ← required fields "healthy" readUsize
      let degraded ← required fields "degraded" readUsize
      let unreachable ← required fields "unreachable" readUsize
      let connectedStreams ← required fields "connected_streams" readUsize
      return ⟨totalNodes, healthy, degraded, unreachable, connectedStreams⟩
  | _ => .error "invalid type, expected struct ClusterStatus"

def readAck : Json F → Except String DispatchAck
  | .object fields => do
      let commandId ← required fields "command_id" readString
      let nodeId ← required fields "node_id" readString
      return ⟨commandId, nodeId⟩
  | _ => .error "invalid type, expected struct DispatchAck"

-- The text of a body is what is left to show where it is not one of the daemon's errors.
def decode (text : Json F → String) (read : Json F → Except String A) (url : String) : Response F → Except ClientError A
  | .ok body => (read body).mapError (.undecodable ("decoding response from " ++ url))
  | .refused status body =>
      let msg := match readErrorBody body with
        | .ok message => message
        | .error _ => text body
      .error (.refused (url ++ " -> " ++ status.display ++ ": " ++ msg))

end Decode

section Requests

variable {F Bytes : Type} (text : Json F → String) (api : ApiClient)

def fetchClusterStatus (daemon : Instance) (now : UInt64) (state : SharedState F Bytes) : Except ClientError ClusterStatus :=
  decode text readClusterStatus (api.url "/api/v1/cluster/status")
    (.ok (writeClusterStatus (clusterStatus daemon (listNodes state) state.channels.size now)))

def fetchNode [F64 F] (serde : SerdeF64 F) (id : NodeId) (state : SharedState F Bytes) : Except ClientError (NodeRecord F) :=
  decode text (readRecord serde) (api.url ("/api/v1/nodes/" ++ id)) (respond (writeRecord serde) (Routes.getNode id state))

def fetchMetrics [F64 F] (serde : SerdeF64 F) (id : NodeId) (state : SharedState F Bytes) :
    Except ClientError (MetricsReport F) :=
  decode text (readReport serde) (api.url ("/api/v1/nodes/" ++ id ++ "/metrics"))
    (respond (writeReport serde) (Routes.getNodeMetrics id state))

def fetchNodes [F64Text F] (serde : SerdeF64 F) (state : SharedState F Bytes) : Except ClientError (List (NodeRecord F)) :=
  decode text (scrape serde) (api.url "/api/v1/nodes") (.ok (listBody serde (listNodes state)))

end Requests

section Answers

variable {F A B : Type} (text : Json F → String) (url : String)

theorem decode_respond (read : Json F → Except String A) (write : B → Json F) (answer : Except ApiError B) :
    decode text read url (respond write answer) =
      match answer with
      | .ok value => (read (write value)).mapError (.undecodable ("decoding response from " ++ url))
      | .error e => .error (.refused (url ++ " -> " ++ e.status.display ++ ": " ++ e.message)) := by
  cases answer with
  | ok value => rfl
  | error e =>
      have message : readErrorBody (writeError e.message : Json F) = .ok e.message := by
        simp [readErrorBody, writeError, required_cons, readString]
      simp only [respond, ApiError.intoResponse, decode, message]

theorem read_write_count (n : Nat) : readUsize (.integer n : Json F) = .ok n := by
  simp [readUsize]

theorem read_cluster_status (status : Daemon.ClusterStatus) :
    readClusterStatus (writeClusterStatus status : Json F) =
      .ok ⟨status.totalNodes, status.healthy, status.degraded, status.unreachable, status.connectedStreams⟩ := by
  simp [readClusterStatus, writeClusterStatus, required_cons, read_write_count, ok_bind, pure, Except.pure]

theorem read_ack (ack : Daemon.DispatchAck) : readAck (writeAck ack : Json F) = .ok ⟨ack.commandId, ack.nodeId⟩ := by
  simp [readAck, writeAck, required_cons, readString, ok_bind, pure, Except.pure]

end Answers

section Fetching

variable {F Bytes : Type} (text : Json F → String) (api : ApiClient)

theorem fetch_node_answer [F64 F] (serde : SerdeF64 F) (id : NodeId) (state : SharedState F Bytes) :
    fetchNode text api serde id state = match state.nodes[id]? with
      | none => .error (.refused (api.url ("/api/v1/nodes/" ++ id) ++ " -> 404 Not Found: unknown node " ++ id))
      | some record => (record.traverse serde.reread).mapError
          (.undecodable ("decoding response from " ++ api.url ("/api/v1/nodes/" ++ id))) := by
  rw [fetchNode, decode_respond, Routes.getNode]
  cases state.nodes[id]? with
  | none =>
      simp only [StatusCode.display, String.append_assoc]
      rfl
  | some record => simp only [read_write_record]

end Fetching

section Screens

variable {F : Type} (text : Json F → String) (api : ApiClient) (command : Command)

def Command.path : Command → String
  | .deploy id _ _ _ _ _ => "/api/v1/nodes/" ++ id ++ "/deploy"
  | .mount id _ _ _ _ => "/api/v1/nodes/" ++ id ++ "/fs"
  | .unmount id _ => "/api/v1/nodes/" ++ id ++ "/fs"

def Command.announce (ack : DispatchAck) : Command → String
  | .deploy _ _ _ _ _ _ =>
      "deploy accepted: command=" ++ ack.commandId ++ " node=" ++ ack.nodeId ++
        " (outcome is asynchronous; see `hpc node status`)"
  | .mount _ device mountPoint _ _ =>
      "mount accepted: command=" ++ ack.commandId ++ " node=" ++ ack.nodeId ++ " (" ++ device ++ " -> " ++ mountPoint ++ ")"
  | .unmount _ mountPoint =>
      "unmount accepted: command=" ++ ack.commandId ++ " node=" ++ ack.nodeId ++ " (" ++ mountPoint ++ ")"

def Command.screen (answer : Except ApiError Daemon.DispatchAck) : Except ClientError String :=
  (decode text readAck (api.url command.path) (respond writeAck answer)).map fun ack => command.announce ack

theorem command_screen (answer : Except ApiError Daemon.DispatchAck) :
    command.screen text api answer =
      match answer with
      | .ok ack => .ok (command.announce ⟨ack.commandId, ack.nodeId⟩)
      | .error e => .error (.refused (api.url command.path ++ " -> " ++ e.status.display ++ ": " ++ e.message)) := by
  rw [Command.screen, decode_respond]
  cases answer with
  | ok ack => simp only [read_ack, Except.mapError, Except.map]
  | error e => rfl

end Screens

end Hpc.Cli
