import Hpc.Daemon.Api

set_option autoImplicit false

namespace Hpc.Daemon

open Hpc.Core Hpc.Lib

section Dispatch

variable {F Bytes : Type}

def isConnected (state : SharedState F Bytes) (nodeId : NodeId) : Bool := state.channels.contains nodeId

-- The command is in the hands of the channel after this; a send fails when the receiver of the channel is gone.
def dispatch (alive : ChannelId → Bool) (nodeId : NodeId) (_command : NodeCommand) (state : SharedState F Bytes) :
    Except HpcError Unit × SharedState F Bytes :=
  match state.nodes[nodeId]? with
  | none => (.error (unknownNode nodeId), state)
  | some _ =>
      match state.channels[nodeId]? with
      | none => (.error (.invalidState ("node " ++ nodeId ++ " has no live command stream")), state)
      | some sender =>
          if alive sender then (.ok (), state)
          else (.error (.invalidState ("command channel for " ++ nodeId ++ " closed")), state)

end Dispatch

-- The handlers of /api/v1/nodes/{id}. A body that is not the JSON of its request does not come this far.
namespace Routes

inductive NodeRequest where
  | get
  | delete (txn : Txn)
  | metrics
  | deploy (uuid : String) (req : DeployRequest)
  | fs (uuid : String) (req : FsRequest)

inductive Reply (F : Type) where
  | record (record : NodeRecord F)
  | noContent
  | report (report : MetricsReport F)
  | ack (ack : DispatchAck)

section Handlers

variable {F Bytes : Type}

def getNode (id : NodeId) (state : SharedState F Bytes) : Except ApiError (NodeRecord F) :=
  match state.nodes[id]? with
  | none => .error ⟨.notFound, "unknown node " ++ id⟩
  | some record => .ok record

def getNodeMetrics (id : NodeId) (state : SharedState F Bytes) : Except ApiError (MetricsReport F) := do
  let record ← getNode id state
  match record.latestMetrics with
  | none => .error ⟨.notFound, "no metrics reported yet"⟩
  | some report => .ok report

def deregisterNode (txn : Txn) (id : NodeId) (state : SharedState F Bytes) : Except ApiError Unit × SharedState F Bytes :=
  match Daemon.deregisterNode txn id state with
  | (.error e, state) => (.error (ApiError.ofHpc e), state)
  | (.ok true, state) => (.ok (), state)
  | (.ok false, state) => (.error ⟨.notFound, "unknown node " ++ id⟩, state)

def serve (alive : ChannelId → Bool) (id : NodeId) (request : NodeRequest) (state : SharedState F Bytes) :
    Except ApiError (Reply F) × SharedState F Bytes :=
  match request with
  | .get => ((getNode id state).map .record, state)
  | .delete txn => ((deregisterNode txn id state).1.map fun _ => .noContent, (deregisterNode txn id state).2)
  | .metrics => ((getNodeMetrics id state).map .report, state)
  | .deploy uuid req =>
      let (answer, state) := deploy isConnected (dispatch alive) uuid id req state
      (answer.map .ack, state)
  | .fs uuid req =>
      let (answer, state) := fsCommand isConnected (dispatch alive) uuid id req state
      (answer.map .ack, state)

end Handlers

def NodeRequest.WellFormed : NodeRequest → Prop
  | .deploy _ req => trimsToEmpty req.component = false
  | .fs _ req => trimsToEmpty req.mountPoint = false ∧ ¬ (req.action = .format ∧ req.force = false)
  | _ => True

def NodeRequest.IsCommand : NodeRequest → Prop
  | .deploy _ _ | .fs _ _ => True
  | _ => False

section Answers

variable {F Bytes : Type} (alive : ChannelId → Bool) (id : NodeId) (request : NodeRequest) (state : SharedState F Bytes)

def refusal {A : Type} : Except ApiError A → Option StatusCode
  | .ok _ => none
  | .error e => some e.status

def Known : Prop := (state.nodes[id]?).isSome

def LiveStream : Prop := ∃ sender, state.channels[id]? = some sender ∧ alive sender = true

-- An unknown node is not found, and a conflict is about a known node without a live stream.
def TellsApart : Prop :=
  (¬ Known id state → refusal (serve alive id request state).1 = some .notFound) ∧
    (request.IsCommand → refusal (serve alive id request state).1 = some .conflict →
      Known id state ∧ ¬ LiveStream alive id state)

-- A command for an unknown node gets past the gate only if the registry of streams still has the node, and the removal of
-- one gets past the store only if the transaction commits.
def Reaches : Prop :=
  Known id state ∨ match request with
    | .get | .metrics => True
    | .delete txn => txn = .commits
    | .deploy _ _ | .fs _ _ => isConnected state id = true

def commandRefusal : Option StatusCode :=
  match state.channels[id]? with
  | none => some .conflict
  | some sender =>
      match state.nodes[id]? with
      | none => some .notFound
      | some _ => if alive sender then none else some .conflict

theorem refusal_map {A B : Type} (change : A → B) (answer : Except ApiError A) :
    refusal (answer.map change) = refusal answer := by
  cases answer <;> rfl

theorem is_connected_iff : isConnected state id = true ↔ (state.channels[id]?).isSome := by
  rw [isConnected, Std.ExtTreeMap.contains_eq_isSome_getElem?]

theorem dispatch_refusal (command : NodeCommand) (connected : isConnected state id = true) :
    (match (dispatch alive id command state).1 with
      | .ok _ => none
      | .error e => some (ApiError.ofHpc e).status) = commandRefusal alive id state := by
  obtain ⟨sender, entry⟩ := Option.isSome_iff_exists.mp ((is_connected_iff id state).mp connected)
  rw [dispatch, commandRefusal, entry]
  cases state.nodes[id]? with
  | none => rfl
  | some record =>
      by_cases receiving : alive sender = true
      · simp [receiving]
      · simp [receiving, ApiError.ofHpc]

theorem unconnected_refusal (absent : isConnected state id = false) : commandRefusal alive id state = some .conflict := by
  have none : state.channels[id]? = none := by
    apply Option.not_isSome_iff_eq_none.mp
    rw [← is_connected_iff, absent]
    exact Bool.false_ne_true
  rw [commandRefusal, none]

theorem deploy_refusal (uuid : String) (req : DeployRequest) (component : trimsToEmpty req.component = false) :
    refusal (deploy isConnected (dispatch alive) uuid id req state).1 = commandRefusal alive id state := by
  rw [deploy, component, if_neg Bool.false_ne_true]
  by_cases absent : isConnected state id = false
  · rw [if_pos absent, unconnected_refusal alive id state absent]
    rfl
  · rw [if_neg absent, ← dispatch_refusal alive id state (.deploy (req.spec uuid)) (eq_true_of_ne_false absent)]
    cases dispatch alive id (.deploy (req.spec uuid)) state with
    | mk answer next => cases answer <;> rfl

theorem fs_command_refusal (uuid : String) (req : FsRequest) (mountPoint : trimsToEmpty req.mountPoint = false)
    (forced : ¬ (req.action = .format ∧ req.force = false)) :
    refusal (fsCommand isConnected (dispatch alive) uuid id req state).1 = commandRefusal alive id state := by
  rw [fsCommand, mountPoint, if_neg Bool.false_ne_true, if_neg forced]
  by_cases absent : isConnected state id = false
  · rw [if_pos absent, unconnected_refusal alive id state absent]
    rfl
  · rw [if_neg absent, ← dispatch_refusal alive id state (.fs (req.spec uuid)) (eq_true_of_ne_false absent)]
    cases dispatch alive id (.fs (req.spec uuid)) state with
    | mk answer next => cases answer <;> rfl

theorem serve_deploy_refusal (uuid : String) (req : DeployRequest) (component : trimsToEmpty req.component = false) :
    refusal (serve alive id (.deploy uuid req) state).1 = commandRefusal alive id state := by
  rw [← deploy_refusal alive id state uuid req component]
  exact refusal_map Reply.ack _

theorem serve_fs_refusal (uuid : String) (req : FsRequest) (mountPoint : trimsToEmpty req.mountPoint = false)
    (forced : ¬ (req.action = .format ∧ req.force = false)) :
    refusal (serve alive id (.fs uuid req) state).1 = commandRefusal alive id state := by
  rw [← fs_command_refusal alive id state uuid req mountPoint forced]
  exact refusal_map Reply.ack _

theorem command_tells_apart_iff :
    ((¬ Known id state → commandRefusal alive id state = some .notFound) ∧
      (commandRefusal alive id state = some .conflict → Known id state ∧ ¬ LiveStream alive id state)) ↔
      Known id state ∨ isConnected state id = true := by
  rw [is_connected_iff, commandRefusal, Known, LiveStream]
  cases state.channels[id]? with
  | none => cases state.nodes[id]? <;> simp
  | some sender =>
      cases state.nodes[id]? with
      | none => simp
      | some record => by_cases receiving : alive sender = true <;> simp [receiving]

theorem deregister_refusal (txn : Txn) (unknown : ¬ Known id state) :
    refusal (deregisterNode txn id state).1 = some .notFound ↔ txn = .commits := by
  have absent : state.nodes.contains id = false := by
    rw [Std.ExtTreeMap.contains_eq_isSome_getElem?]
    exact eq_false_of_ne_true unknown
  cases txn with
  | commits => simp [deregisterNode, Daemon.deregisterNode, deregisterTable, deleteNode, absent, refusal]
  | fails message => simp [deregisterNode, Daemon.deregisterNode, deleteNode, refusal, ApiError.ofHpc]

theorem get_node_refusal (unknown : ¬ Known id state) : refusal (getNode id state) = some .notFound := by
  have absent : state.nodes[id]? = none := Option.not_isSome_iff_eq_none.mp unknown
  rw [getNode, absent]
  rfl

theorem get_node_metrics_refusal (unknown : ¬ Known id state) : refusal (getNodeMetrics id state) = some .notFound := by
  have absent : state.nodes[id]? = none := Option.not_isSome_iff_eq_none.mp unknown
  rw [getNodeMetrics, getNode, absent]
  rfl

theorem unknown_node_answers_iff (wellFormed : request.WellFormed) :
    TellsApart alive id request state ↔ Reaches id request state := by
  cases request with
  | get =>
      apply iff_of_true
      · apply And.intro
        · intro unknown
          rw [serve, refusal_map]
          exact get_node_refusal id state unknown
        · intro command
          exact command.elim
      · exact Or.inr trivial
  | delete txn =>
      by_cases known : Known id state
      · exact iff_of_true ⟨fun unknown => absurd known unknown, fun command => command.elim⟩ (Or.inl known)
      · rw [TellsApart, Reaches, serve, refusal_map, deregister_refusal id state txn known]
        apply Iff.intro
        · intro apart
          exact Or.inr (apart.1 known)
        · intro reaches
          exact ⟨fun _ => reaches.resolve_left known, fun command => command.elim⟩
  | metrics =>
      apply iff_of_true
      · apply And.intro
        · intro unknown
          rw [serve, refusal_map]
          exact get_node_metrics_refusal id state unknown
        · intro command
          exact command.elim
      · exact Or.inr trivial
  | deploy uuid req =>
      rw [TellsApart, serve_deploy_refusal alive id state uuid req wellFormed, Reaches,
        ← command_tells_apart_iff alive id state]
      exact and_congr_right fun _ => ⟨fun apart => apart trivial, fun apart _ => apart⟩
  | fs uuid req =>
      rw [TellsApart, serve_fs_refusal alive id state uuid req wellFormed.1 wellFormed.2, Reaches,
        ← command_tells_apart_iff alive id state]
      exact and_congr_right fun _ => ⟨fun apart => apart trivial, fun apart _ => apart⟩

end Answers

section Samples

def freshState : SharedState ℚ Nat := ⟨∅, ∅, .fresh⟩

def sampleDeploy : NodeRequest := .deploy "u1" ⟨none, .install, "hpc-agent", "1.0", "/opt/hpc", ∅⟩

theorem sample_deploy_well_formed : sampleDeploy.WellFormed := by
  change trimsToEmpty "hpc-agent" = false
  decide

theorem ghost_deploy_answers :
    TellsApart (fun _ => true) "ghost" sampleDeploy freshState ↔ Reaches "ghost" sampleDeploy freshState :=
  unknown_node_answers_iff (fun _ => true) "ghost" sampleDeploy freshState sample_deploy_well_formed

-- A deployment to a node that nobody has registered is answered with a conflict.
theorem ghost_deploy_conflicts :
    ¬ Known "ghost" freshState ∧ refusal (serve (fun _ => true) "ghost" sampleDeploy freshState).1 = some .conflict ∧
      ¬ ∀ (alive : ChannelId → Bool) (id : NodeId) (request : NodeRequest) (state : SharedState ℚ Nat),
        request.WellFormed → TellsApart alive id request state := by
  have unknown : ¬ Known "ghost" freshState := by simp [Known, freshState]
  have absent : isConnected freshState "ghost" = false := by simp [isConnected, freshState]
  have conflict : refusal (serve (fun _ => true) "ghost" sampleDeploy freshState).1 = some .conflict := by
    rw [← unconnected_refusal (fun _ => true) "ghost" freshState absent]
    exact serve_deploy_refusal (fun _ => true) "ghost" freshState "u1" _ sample_deploy_well_formed
  apply And.intro unknown
  apply And.intro conflict
  intro apart
  exact unknown ((apart (fun _ => true) "ghost" sampleDeploy freshState sample_deploy_well_formed).2 trivial conflict).1

end Samples

end Routes

end Hpc.Daemon
