import Hpc.Lib.Runs
import Hpc.Lib.Slots
import Hpc.Plane.Stream

set_option autoImplicit false

namespace Hpc.Plane

open Hpc.Core Hpc.Wire Hpc.Daemon Hpc.Agent Hpc.Lib

-- The calls in flight, each suspended where another task can run: between the locks it takes, and while it waits for room in
-- a channel.
inductive DispatchPhase where
  | lookup
  | clone
  | sending (sid : Nat)
  | accepted (sid : Nat)
  | refused (e : HpcError)
deriving DecidableEq

structure Dispatch where
  node : NodeId
  command : NodeCommand
  phase : DispatchPhase

inductive OpeningPhase where
  | lookup
  | attach
  | opened (sid : Nat)
  | refused (status : Status)
deriving DecidableEq

structure Opening where
  executor : Executor
  phase : OpeningPhase

def Opening.node (opening : Opening) : NodeId := opening.executor.nodeId

inductive DeregisterPhase where
  | remove
  | detach
  | delete
  | returned
deriving DecidableEq

structure Deregistration where
  node : NodeId
  phase : DeregisterPhase
deriving DecidableEq

-- The daemon as commands see it: the ids in the node table, the channel registry, every stream ever opened, the calls, and
-- the recorded outcomes. A node is fenced from the return of a deregister call to the next registration.
structure Relay where
  nodes : Finset NodeId
  channels : StrMap Nat
  streams : List CommandStream
  dispatches : List Dispatch
  openings : List Opening
  deregistrations : List Deregistration
  outcomes : StrMap CommandOutcome
  fenced : Finset NodeId

def Relay.boot (nodes : Finset NodeId) : Relay := ⟨nodes, ∅, [], [], [], [], ∅, ∅⟩

inductive RelayLabel where
  | register (node : NodeId)
  | callDispatch (node : NodeId) (command : NodeCommand)
  | stepDispatch (index : Nat)
  | callStream (executor : Executor)
  | stepStream (index : Nat)
  | callDeregister (node : NodeId)
  | stepDeregister (index : Nat)
  | stream (sid : Nat) (label : StreamLabel)
  | detach (sid : Nat)

namespace Relay

def isConnected (relay : Relay) (node : NodeId) : Bool := relay.channels.contains node

def setDispatch (relay : Relay) (index : Nat) (dispatch : Dispatch) (phase : DispatchPhase) : Relay :=
  { relay with dispatches := relay.dispatches.set index { dispatch with phase := phase } }

def setOpening (relay : Relay) (index : Nat) (opening : Opening) (phase : OpeningPhase) : Relay :=
  { relay with openings := relay.openings.set index { opening with phase := phase } }

def setDeregistration (relay : Relay) (index : Nat) (call : Deregistration) (phase : DeregisterPhase) : Relay :=
  { relay with deregistrations := relay.deregistrations.set index { call with phase := phase } }

def lookupNode (relay : Relay) (node : NodeId) : DispatchPhase :=
  if node ∈ relay.nodes then .clone else .refused (unknownNode node)

def cloneSender (relay : Relay) (node : NodeId) : DispatchPhase :=
  match relay.channels[node]? with
  | none => .refused (.invalidState ("node " ++ node ++ " has no live command stream"))
  | some sid => .sending sid

-- A sender is alive in the registry or in a dispatch that has cloned it.
def sendersGone (relay : Relay) (sid : Nat) : Bool :=
  (relay.channels.toList.all fun (_, held) => held != sid) &&
    relay.dispatches.all fun dispatch => decide (dispatch.phase ≠ .sending sid)

def advanceDispatch (relay : Relay) (index : Nat) (dispatch : Dispatch) : Option Relay :=
  match dispatch.phase with
  | .lookup => some (relay.setDispatch index dispatch (relay.lookupNode dispatch.node))
  | .clone => some (relay.setDispatch index dispatch (relay.cloneSender dispatch.node))
  | .sending sid => (relay.streams[sid]?).bind fun s =>
      if s.commands.closed = true then
        some (relay.setDispatch index dispatch (.refused (.invalidState ("command channel for " ++ dispatch.node ++ " closed"))))
      else (s.commands.push ⟨index, dispatch.command⟩).map fun commands =>
        { relay.setDispatch index dispatch (.accepted sid) with
          streams := relay.streams.set sid { s with commands := commands } }
  | _ => none

def attachChannel (relay : Relay) (index : Nat) (opening : Opening) : Relay :=
  { relay.setOpening index opening (.opened relay.streams.length) with
    channels := relay.channels.insert opening.node relay.streams.length
    streams := relay.streams ++ [CommandStream.opened opening.executor] }

def advanceOpening (relay : Relay) (index : Nat) (opening : Opening) : Option Relay :=
  match opening.phase with
  | .lookup => some (relay.setOpening index opening
      (if opening.node ∈ relay.nodes then .attach else .refused ⟨.notFound, "unknown node " ++ opening.node⟩))
  | .attach => some (relay.attachChannel index opening)
  | _ => none

def advanceDeregistration (relay : Relay) (index : Nat) (call : Deregistration) : Option Relay :=
  match call.phase with
  | .remove => some { relay.setDeregistration index call .detach with nodes := relay.nodes.erase call.node }
  | .detach => some { relay.setDeregistration index call .delete with channels := relay.channels.erase call.node }
  | .delete => some { relay.setDeregistration index call .returned with fenced := insert call.node relay.fenced }
  | .returned => none

def setStream (relay : Relay) (sid : Nat) (s : CommandStream) : Relay := { relay with streams := relay.streams.set sid s }

def recordReport (relay : Relay) (s : CommandStream) : StreamLabel → StrMap CommandOutcome
  | .report =>
      match s.reporting with
      | some outcome => relay.outcomes.insert outcome.commandId (outcomeFromPb (outcomeToPb outcome))
      | none => relay.outcomes
  | _ => relay.outcomes

-- The last act of a bridge task: the entry of its node goes, whatever it holds, and with the task the receiver of its own
-- channel.
def detachStream (relay : Relay) (sid : Nat) (s : CommandStream) : Relay :=
  { relay.setStream sid { s with bridge := .finished, commands := s.commands.drop } with
    channels := relay.channels.erase s.node }

end Relay

def relayStep (relay : Relay) : RelayLabel → Option Relay
  | .register node => some { relay with nodes := insert node relay.nodes, fenced := relay.fenced.erase node }
  | .callDispatch node command => some { relay with dispatches := relay.dispatches ++ [⟨node, command, .lookup⟩] }
  | .stepDispatch index => (relay.dispatches[index]?).bind (relay.advanceDispatch index)
  | .callStream executor => some { relay with openings := relay.openings ++ [⟨executor, .lookup⟩] }
  | .stepStream index => (relay.openings[index]?).bind (relay.advanceOpening index)
  | .callDeregister node => some { relay with deregistrations := relay.deregistrations ++ [⟨node, .remove⟩] }
  | .stepDeregister index => (relay.deregistrations[index]?).bind (relay.advanceDeregistration index)
  | .stream sid label => (relay.streams[sid]?).bind fun s =>
      (streamStep (relay.sendersGone sid) s label).map fun next =>
        { relay.setStream sid next with outcomes := relay.recordReport s label }
  | .detach sid => (relay.streams[sid]?).bind fun s => if s.bridge = .detaching then some (relay.detachStream sid s) else none

inductive RelayMove (relay : Relay) : RelayLabel → Relay → Prop where
  | register (node : NodeId) :
      RelayMove relay (.register node) { relay with nodes := insert node relay.nodes, fenced := relay.fenced.erase node }
  | callDispatch (node : NodeId) (command : NodeCommand) :
      RelayMove relay (.callDispatch node command) { relay with dispatches := relay.dispatches ++ [⟨node, command, .lookup⟩] }
  | lookedUp (index : Nat) (dispatch : Dispatch) (here : relay.dispatches[index]? = some dispatch)
      (phase : dispatch.phase = .lookup) :
      RelayMove relay (.stepDispatch index) (relay.setDispatch index dispatch (relay.lookupNode dispatch.node))
  | cloned (index : Nat) (dispatch : Dispatch) (here : relay.dispatches[index]? = some dispatch)
      (phase : dispatch.phase = .clone) :
      RelayMove relay (.stepDispatch index) (relay.setDispatch index dispatch (relay.cloneSender dispatch.node))
  | refused (index sid : Nat) (dispatch : Dispatch) (s : CommandStream) (e : HpcError)
      (here : relay.dispatches[index]? = some dispatch) (phase : dispatch.phase = .sending sid)
      (present : relay.streams[sid]? = some s) (closed : s.commands.closed = true) :
      RelayMove relay (.stepDispatch index) (relay.setDispatch index dispatch (.refused e))
  | sent (index sid : Nat) (dispatch : Dispatch) (s : CommandStream) (commands : Mailbox Delivery 64)
      (here : relay.dispatches[index]? = some dispatch) (phase : dispatch.phase = .sending sid)
      (present : relay.streams[sid]? = some s) (pushed : s.commands.push ⟨index, dispatch.command⟩ = some commands) :
      RelayMove relay (.stepDispatch index) { relay.setDispatch index dispatch (.accepted sid) with
        streams := relay.streams.set sid { s with commands := commands } }
  | callStream (executor : Executor) :
      RelayMove relay (.callStream executor) { relay with openings := relay.openings ++ [⟨executor, .lookup⟩] }
  | streamLookedUp (index : Nat) (opening : Opening) (next : OpeningPhase) (here : relay.openings[index]? = some opening)
      (phase : opening.phase = .lookup) (result : next ≠ .attach ∨ opening.node ∈ relay.nodes) :
      RelayMove relay (.stepStream index) (relay.setOpening index opening next)
  | attached (index : Nat) (opening : Opening) (here : relay.openings[index]? = some opening)
      (phase : opening.phase = .attach) : RelayMove relay (.stepStream index) (relay.attachChannel index opening)
  | callDeregister (node : NodeId) :
      RelayMove relay (.callDeregister node) { relay with deregistrations := relay.deregistrations ++ [⟨node, .remove⟩] }
  | removed (index : Nat) (call : Deregistration) (here : relay.deregistrations[index]? = some call)
      (phase : call.phase = .remove) :
      RelayMove relay (.stepDeregister index) { relay.setDeregistration index call .detach with nodes := relay.nodes.erase call.node }
  | cleared (index : Nat) (call : Deregistration) (here : relay.deregistrations[index]? = some call)
      (phase : call.phase = .detach) :
      RelayMove relay (.stepDeregister index) { relay.setDeregistration index call .delete with
        channels := relay.channels.erase call.node }
  | returned (index : Nat) (call : Deregistration) (here : relay.deregistrations[index]? = some call)
      (phase : call.phase = .delete) :
      RelayMove relay (.stepDeregister index) { relay.setDeregistration index call .returned with
        fenced := insert call.node relay.fenced }
  | streamed (sid : Nat) (s next : CommandStream) (label : StreamLabel) (present : relay.streams[sid]? = some s)
      (move : StreamMove (relay.sendersGone sid) s label next) :
      RelayMove relay (.stream sid label) { relay.setStream sid next with outcomes := relay.recordReport s label }
  | detached (sid : Nat) (s : CommandStream) (present : relay.streams[sid]? = some s) (ending : s.bridge = .detaching) :
      RelayMove relay (.detach sid) (relay.detachStream sid s)

theorem relay_step_moves (relay next : Relay) (label : RelayLabel) (taken : relayStep relay label = some next) :
    RelayMove relay label next := by
  cases label with
  | register node => cases taken; exact .register node
  | callDispatch node command => cases taken; exact .callDispatch node command
  | callStream executor => cases taken; exact .callStream executor
  | callDeregister node => cases taken; exact .callDeregister node
  | stepDispatch index =>
      obtain ⟨dispatch, here, advanced⟩ := Option.bind_eq_some_iff.mp taken
      rw [Relay.advanceDispatch] at advanced
      cases phase : dispatch.phase with
      | lookup => rw [phase] at advanced; cases advanced; exact .lookedUp index dispatch here phase
      | clone => rw [phase] at advanced; cases advanced; exact .cloned index dispatch here phase
      | sending sid =>
          rw [phase] at advanced
          obtain ⟨s, present, outcome⟩ := Option.bind_eq_some_iff.mp advanced
          by_cases closed : s.commands.closed = true
          · rw [if_pos closed] at outcome
            cases outcome
            exact .refused index sid dispatch s _ here phase present closed
          · rw [if_neg closed] at outcome
            obtain ⟨commands, pushed, rfl⟩ := Option.map_eq_some_iff.mp outcome
            exact .sent index sid dispatch s commands here phase present pushed
      | accepted sid => rw [phase] at advanced; cases advanced
      | refused e => rw [phase] at advanced; cases advanced
  | stepStream index =>
      obtain ⟨opening, here, advanced⟩ := Option.bind_eq_some_iff.mp taken
      rw [Relay.advanceOpening] at advanced
      cases phase : opening.phase with
      | lookup =>
          rw [phase] at advanced
          cases advanced
          apply RelayMove.streamLookedUp index opening _ here phase
          by_cases known : opening.node ∈ relay.nodes
          · exact Or.inr known
          · rw [if_neg known]
            exact Or.inl nofun
      | attach => rw [phase] at advanced; cases advanced; exact .attached index opening here phase
      | opened sid => rw [phase] at advanced; cases advanced
      | refused status => rw [phase] at advanced; cases advanced
  | stepDeregister index =>
      obtain ⟨call, here, advanced⟩ := Option.bind_eq_some_iff.mp taken
      rw [Relay.advanceDeregistration] at advanced
      cases phase : call.phase with
      | remove => rw [phase] at advanced; cases advanced; exact .removed index call here phase
      | detach => rw [phase] at advanced; cases advanced; exact .cleared index call here phase
      | delete => rw [phase] at advanced; cases advanced; exact .returned index call here phase
      | returned => rw [phase] at advanced; cases advanced
  | stream sid label =>
      obtain ⟨s, present, stepped⟩ := Option.bind_eq_some_iff.mp taken
      obtain ⟨after, ran, rfl⟩ := Option.map_eq_some_iff.mp stepped
      exact .streamed sid s after label present (stream_step_moves _ s after label ran)
  | detach sid =>
      obtain ⟨s, present, ended⟩ := Option.bind_eq_some_iff.mp taken
      by_cases ending : s.bridge = .detaching
      · rw [if_pos ending] at ended
        cases ended
        exact .detached sid s present ending
      · rw [if_neg ending] at ended
        cases ended

theorem senders_gone_iff (relay : Relay) (sid : Nat) :
    relay.sendersGone sid = true ↔
      (∀ node : NodeId, relay.channels[node]? ≠ some sid) ∧ ∀ dispatch ∈ relay.dispatches, dispatch.phase ≠ .sending sid := by
  have entries : (relay.channels.toList.all fun (_, held) => held != sid) = true ↔
      ∀ node : NodeId, relay.channels[node]? ≠ some sid := by
    rw [List.all_eq_true]
    apply Iff.intro
    · intro all node found
      have other := all (node, sid) (Std.ExtTreeMap.mem_toList_iff_getElem?_eq_some.mpr found)
      simp at other
    · intro absent entry member
      have found := Std.ExtTreeMap.mem_toList_iff_getElem?_eq_some.mp member
      have other : entry.2 ≠ sid := fun same => absent entry.1 (same ▸ found)
      simpa using other
  rw [Relay.sendersGone, Bool.and_eq_true, entries]
  simp

theorem looked_up_phase (relay : Relay) (node : NodeId) :
    (node ∈ relay.nodes ∧ relay.lookupNode node = .clone) ∨ ∃ e, relay.lookupNode node = .refused e := by
  by_cases known : node ∈ relay.nodes
  · exact Or.inl ⟨known, if_pos known⟩
  · exact Or.inr ⟨_, if_neg known⟩

theorem cloned_phase (relay : Relay) (node : NodeId) :
    (∃ sid, relay.channels[node]? = some sid ∧ relay.cloneSender node = .sending sid) ∨
      ∃ e, relay.cloneSender node = .refused e := by
  rw [Relay.cloneSender]
  cases relay.channels[node]? with
  | none => exact Or.inr ⟨_, rfl⟩
  | some sid => exact Or.inl ⟨sid, rfl, rfl⟩

end Hpc.Plane
