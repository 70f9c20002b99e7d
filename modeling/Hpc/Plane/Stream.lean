import Hpc.Lib.Mailbox
import Hpc.Agent.Client
import Hpc.Daemon.Grpc

set_option autoImplicit false

namespace Hpc.Plane

open Hpc.Core Hpc.Wire Hpc.Daemon Hpc.Agent Hpc.Lib Executor

-- A command in a channel and the message made of it, each with the number of the dispatch call that sent it.
structure Delivery where
  call : Nat
  command : NodeCommand
deriving DecidableEq

structure Frame where
  call : Nat
  message : Pb.Command
deriving DecidableEq

-- Where the bridge task of a stream stands: waiting in the select, holding a received command until it is sent, out of the
-- loop, or done.
inductive Bridge where
  | selecting
  | sending (delivery : Delivery)
  | detaching
  | finished
deriving DecidableEq

def Bridge.ended : Bridge → Bool
  | .detaching => true
  | .finished => true
  | _ => false

structure Execution where
  frame : Frame
  handled : Handled

-- One call of StreamCommands: the command channel, the bridge task, the channel of the response stream, what the transport
-- holds, and the agent's session. A client that has hung up has dropped the receiver of the response stream.
structure CommandStream where
  executor : Executor
  commands : Mailbox Delivery 64
  bridge : Bridge
  out : Mailbox Frame 64
  wire : List Frame
  executed : List Execution
  reporting : Option CommandOutcome
  reported : List CommandOutcome
  inbound : Bool

def CommandStream.node (s : CommandStream) : NodeId := s.executor.nodeId

def CommandStream.opened (executor : Executor) : CommandStream :=
  ⟨executor, .empty, .selecting, .empty, [], [], none, [], true⟩

inductive StreamLabel where
  | recv
  | recvNone
  | closed
  | forward (now : UInt64)
  | forwardFails
  | transmit
  | hangUp
  | execute (spawn : Argv → Spawn) (now : UInt64)
  | report
  | reportFails
  | leave

-- A step of the stream alone. Whether its senders are all gone is known to the daemon; sends that find the channel full
-- wait, so they are not steps.
def streamStep (sendersGone : Bool) (s : CommandStream) : StreamLabel → Option CommandStream
  | .recv =>
      match s.bridge with
      | .selecting => (s.commands.pop).map fun (delivery, commands) =>
          { s with commands := commands, bridge := .sending delivery }
      | _ => none
  | .recvNone =>
      if s.bridge = .selecting ∧ sendersGone = true ∧ s.commands.queue = [] then some { s with bridge := .detaching } else none
  | .closed => if s.bridge = .selecting ∧ s.out.closed = true then some { s with bridge := .detaching } else none
  | .forward now =>
      match s.bridge with
      | .sending delivery => (s.out.push ⟨delivery.call, toPbCommand now delivery.command⟩).map fun out =>
          { s with out := out, bridge := .selecting }
      | _ => none
  | .forwardFails =>
      match s.bridge with
      | .sending _ => if s.out.closed = true then some { s with bridge := .detaching } else none
      | _ => none
  | .transmit => (s.out.pop).map fun (frame, out) => { s with out := out, wire := s.wire ++ [frame] }
  | .hangUp => some { s with out := s.out.drop }
  | .execute spawn now =>
      match s.inbound, s.reporting, s.wire with
      | true, none, frame :: rest =>
          let handled := executeCommand s.executor ⟨frame.message, spawn, now⟩
          some { s with wire := rest, executed := s.executed ++ [⟨frame, handled⟩], reporting := handled.outcome }
      | _, _, _ => none
  | .report => (s.reporting).map fun outcome => { s with reporting := none, reported := s.reported ++ [outcome] }
  | .reportFails => (s.reporting).map fun _ => { s with reporting := none, inbound := false }
  | .leave => some { s with inbound := false }

def Carries (delivery : Delivery) (frame : Frame) : Prop :=
  frame.call = delivery.call ∧ ∃ now, frame.message = toPbCommand now delivery.command

-- What the bridge has received and not sent on. Only a client that has hung up makes the task lose it.
def Held (s : CommandStream) (held : List Delivery) : Prop :=
  match s.bridge with
  | .selecting => held = []
  | .sending delivery => held = [delivery]
  | _ => held = [] ∨ s.out.closed = true

structure Piped (s : CommandStream) : Prop where
  forwarded : ∃ front held, s.commands.taken = front ++ held ∧ List.Forall₂ Carries front s.out.pushed ∧ Held s held
  handed : s.out.taken = s.executed.map Execution.frame ++ s.wire
  performed : ∀ execution ∈ s.executed, ∃ spawn now,
    execution.handled = executeCommand s.executor ⟨execution.frame.message, spawn, now⟩
  pending : ∀ outcome, s.reporting = some outcome → ∃ execution ∈ s.executed, execution.handled.outcome = some outcome
  reports : ∀ outcome ∈ s.reported, ∃ execution ∈ s.executed, execution.handled.outcome = some outcome

inductive StreamMove (gone : Bool) (s : CommandStream) : StreamLabel → CommandStream → Prop where
  | recv (delivery : Delivery) (commands : Mailbox Delivery 64) (idle : s.bridge = .selecting)
      (popped : s.commands.pop = some (delivery, commands)) :
      StreamMove gone s .recv { s with commands := commands, bridge := .sending delivery }
  | recvNone (idle : s.bridge = .selecting) (senderless : gone = true) (empty : s.commands.queue = []) :
      StreamMove gone s .recvNone { s with bridge := .detaching }
  | closed (idle : s.bridge = .selecting) (hungUp : s.out.closed = true) :
      StreamMove gone s .closed { s with bridge := .detaching }
  | forward (now : UInt64) (delivery : Delivery) (out : Mailbox Frame 64) (held : s.bridge = .sending delivery)
      (pushed : s.out.push ⟨delivery.call, toPbCommand now delivery.command⟩ = some out) :
      StreamMove gone s (.forward now) { s with out := out, bridge := .selecting }
  | forwardFails (delivery : Delivery) (held : s.bridge = .sending delivery) (hungUp : s.out.closed = true) :
      StreamMove gone s .forwardFails { s with bridge := .detaching }
  | transmit (frame : Frame) (out : Mailbox Frame 64) (popped : s.out.pop = some (frame, out)) :
      StreamMove gone s .transmit { s with out := out, wire := s.wire ++ [frame] }
  | hangUp : StreamMove gone s .hangUp { s with out := s.out.drop }
  | execute (spawn : Argv → Spawn) (now : UInt64) (frame : Frame) (rest : List Frame) (handled : Handled)
      (arrived : s.wire = frame :: rest) (ran : handled = executeCommand s.executor ⟨frame.message, spawn, now⟩) :
      StreamMove gone s (.execute spawn now)
        { s with wire := rest, executed := s.executed ++ [⟨frame, handled⟩], reporting := handled.outcome }
  | report (outcome : CommandOutcome) (ready : s.reporting = some outcome) :
      StreamMove gone s .report { s with reporting := none, reported := s.reported ++ [outcome] }
  | reportFails (outcome : CommandOutcome) (ready : s.reporting = some outcome) :
      StreamMove gone s .reportFails { s with reporting := none, inbound := false }
  | leave : StreamMove gone s .leave { s with inbound := false }

theorem stream_step_moves (gone : Bool) (s next : CommandStream) (label : StreamLabel)
    (taken : streamStep gone s label = some next) : StreamMove gone s label next := by
  cases label with
  | recv =>
      simp only [streamStep] at taken
      cases idle : s.bridge with
      | selecting =>
          simp only [idle, Option.map_eq_some_iff] at taken
          obtain ⟨⟨delivery, commands⟩, popped, rfl⟩ := taken
          exact .recv delivery commands idle popped
      | _ => simp [idle] at taken
  | recvNone =>
      simp only [streamStep] at taken
      by_cases enabled : s.bridge = .selecting ∧ gone = true ∧ s.commands.queue = []
      · rw [if_pos enabled] at taken
        cases taken
        exact .recvNone enabled.1 enabled.2.1 enabled.2.2
      · rw [if_neg enabled] at taken
        cases taken
  | closed =>
      simp only [streamStep] at taken
      by_cases enabled : s.bridge = .selecting ∧ s.out.closed = true
      · rw [if_pos enabled] at taken
        cases taken
        exact .closed enabled.1 enabled.2
      · rw [if_neg enabled] at taken
        cases taken
  | forward now =>
      simp only [streamStep] at taken
      cases held : s.bridge with
      | sending delivery =>
          simp only [held, Option.map_eq_some_iff] at taken
          obtain ⟨out, pushed, rfl⟩ := taken
          exact .forward now delivery out held pushed
      | _ => simp [held] at taken
  | forwardFails =>
      simp only [streamStep] at taken
      cases held : s.bridge with
      | sending delivery =>
          simp only [held] at taken
          by_cases hungUp : s.out.closed = true
          · rw [if_pos hungUp] at taken
            cases taken
            exact .forwardFails delivery held hungUp
          · rw [if_neg hungUp] at taken
            cases taken
      | _ => simp [held] at taken
  | transmit =>
      obtain ⟨⟨frame, out⟩, popped, rfl⟩ := Option.map_eq_some_iff.mp taken
      exact .transmit frame out popped
  | hangUp =>
      cases taken
      exact .hangUp
  | execute spawn now =>
      simp only [streamStep] at taken
      split at taken
      · rename_i frame rest reading free arrived
        cases taken
        exact .execute spawn now frame rest _ arrived rfl
      · cases taken
  | report =>
      obtain ⟨outcome, ready, rfl⟩ := Option.map_eq_some_iff.mp taken
      exact .report outcome ready
  | reportFails =>
      obtain ⟨outcome, ready, rfl⟩ := Option.map_eq_some_iff.mp taken
      exact .reportFails outcome ready
  | leave =>
      cases taken
      exact .leave

structure Keeps (s next : CommandStream) : Prop where
  executor : next.executor = s.executor
  pushed : next.commands.pushed = s.commands.pushed
  lost : next.commands.lost = s.commands.lost
  closed : next.commands.closed = s.commands.closed
  hungUp : s.out.closed = true → next.out.closed = true
  ended : s.bridge.ended = true → next.bridge.ended = true

theorem stream_keeps (gone : Bool) (s next : CommandStream) (label : StreamLabel) (move : StreamMove gone s label next) :
    Keeps s next := by
  cases move with
  | recv delivery commands idle popped =>
      obtain ⟨_, _, lost, closed, pushed⟩ := Mailbox.pop_spec _ _ _ popped
      exact ⟨rfl, pushed, lost, closed, id, fun ended => by simp [idle, Bridge.ended] at ended⟩
  | recvNone idle _ _ => exact ⟨rfl, rfl, rfl, rfl, id, fun ended => by simp [idle, Bridge.ended] at ended⟩
  | closed idle _ => exact ⟨rfl, rfl, rfl, rfl, id, fun ended => by simp [idle, Bridge.ended] at ended⟩
  | forward now delivery out held pushed =>
      obtain ⟨live, _⟩ := Mailbox.push_spec _ _ _ pushed
      refine ⟨rfl, rfl, rfl, rfl, fun hungUp => ?_, fun ended => by simp [held, Bridge.ended] at ended⟩
      rw [live] at hungUp
      cases hungUp
  | forwardFails delivery held _ => exact ⟨rfl, rfl, rfl, rfl, id, fun ended => by simp [held, Bridge.ended] at ended⟩
  | transmit frame out popped =>
      obtain ⟨_, _, _, closed, _⟩ := Mailbox.pop_spec _ _ _ popped
      exact ⟨rfl, rfl, rfl, rfl, fun hungUp => closed.trans hungUp, id⟩
  | hangUp => exact ⟨rfl, rfl, rfl, rfl, fun _ => rfl, id⟩
  | execute spawn now frame rest handled arrived ran => exact ⟨rfl, rfl, rfl, rfl, id, id⟩
  | report outcome ready => exact ⟨rfl, rfl, rfl, rfl, id, id⟩
  | reportFails outcome ready => exact ⟨rfl, rfl, rfl, rfl, id, id⟩
  | leave => exact ⟨rfl, rfl, rfl, rfl, id, id⟩

theorem stream_ends (gone : Bool) (s next : CommandStream) (label : StreamLabel) (move : StreamMove gone s label next)
    (ended : next.bridge.ended = true) :
    next.out.closed = true ∨ (next.commands = s.commands ∧ (s.bridge.ended = true ∨ gone = true ∧ s.commands.queue = [])) := by
  cases move with
  | recv delivery commands idle popped => cases ended
  | recvNone idle senderless empty => exact Or.inr ⟨rfl, Or.inr ⟨senderless, empty⟩⟩
  | closed idle hungUp => exact Or.inl hungUp
  | forward now delivery out held pushed => cases ended
  | forwardFails delivery held hungUp => exact Or.inl hungUp
  | transmit frame out popped => exact Or.inr ⟨rfl, Or.inl ended⟩
  | hangUp => exact Or.inl rfl
  | execute spawn now frame rest handled arrived ran => exact Or.inr ⟨rfl, Or.inl ended⟩
  | report outcome ready => exact Or.inr ⟨rfl, Or.inl ended⟩
  | reportFails outcome ready => exact Or.inr ⟨rfl, Or.inl ended⟩
  | leave => exact Or.inr ⟨rfl, Or.inl ended⟩

theorem held_mono (s next : CommandStream) (held : List Delivery) (bridge : next.bridge = s.bridge)
    (closes : s.out.closed = true → next.out.closed = true) (kept : Held s held) : Held next held := by
  simp only [Held] at kept ⊢
  rw [bridge]
  cases phase : s.bridge with
  | selecting => simpa [phase] using kept
  | sending delivery => simpa [phase] using kept
  | detaching =>
      rw [phase] at kept
      exact kept.imp_right closes
  | finished =>
      rw [phase] at kept
      exact kept.imp_right closes

theorem piped_step (gone : Bool) (s next : CommandStream) (label : StreamLabel) (piped : Piped s)
    (move : StreamMove gone s label next) : Piped next := by
  obtain ⟨front, held, received, carried, kept⟩ := piped.forwarded
  cases move with
  | recv delivery commands idle popped =>
      obtain ⟨_, taken, _⟩ := Mailbox.pop_spec _ _ _ popped
      have none : held = [] := by simpa [Held, idle] using kept
      refine ⟨⟨front, [delivery], ?_, carried, rfl⟩, piped.handed, piped.performed, piped.pending, piped.reports⟩
      change commands.taken = front ++ [delivery]
      rw [taken, received, none, List.append_nil]
  | recvNone idle senderless empty =>
      have none : held = [] := by simpa [Held, idle] using kept
      exact ⟨⟨front, held, received, carried, Or.inl none⟩, piped.handed, piped.performed, piped.pending, piped.reports⟩
  | closed idle hungUp =>
      exact ⟨⟨front, held, received, carried, Or.inr hungUp⟩, piped.handed, piped.performed, piped.pending, piped.reports⟩
  | forward now delivery out sending pushed =>
      obtain ⟨_, _, taken, _, _, _, sent⟩ := Mailbox.push_spec _ _ _ pushed
      have one : held = [delivery] := by simpa [Held, sending] using kept
      refine ⟨⟨front ++ [delivery], [], ?_, ?_, rfl⟩, ?_, piped.performed, piped.pending, piped.reports⟩
      · change s.commands.taken = front ++ [delivery] ++ []
        rw [received, one, List.append_nil]
      · change List.Forall₂ Carries (front ++ [delivery]) out.pushed
        rw [sent]
        have carries : Carries delivery ⟨delivery.call, toPbCommand now delivery.command⟩ := ⟨rfl, now, rfl⟩
        have last : List.Forall₂ Carries [delivery] [⟨delivery.call, toPbCommand now delivery.command⟩] := .cons carries .nil
        exact List.rel_append carried last
      · change out.taken = _
        rw [taken]
        exact piped.handed
  | forwardFails delivery sending hungUp =>
      exact ⟨⟨front, held, received, carried, Or.inr hungUp⟩, piped.handed, piped.performed, piped.pending, piped.reports⟩
  | transmit frame out popped =>
      obtain ⟨_, taken, _, closed, pushed⟩ := Mailbox.pop_spec _ _ _ popped
      refine ⟨⟨front, held, received, ?_, ?_⟩, ?_, piped.performed, piped.pending, piped.reports⟩
      · change List.Forall₂ Carries front out.pushed
        rw [pushed]
        exact carried
      · exact held_mono s _ held rfl (fun hungUp => closed.trans hungUp) kept
      · change out.taken = s.executed.map Execution.frame ++ (s.wire ++ [frame])
        rw [taken, piped.handed, List.append_assoc]
  | hangUp =>
      refine ⟨⟨front, held, received, ?_, ?_⟩, piped.handed, piped.performed, piped.pending, piped.reports⟩
      · change List.Forall₂ Carries front s.out.drop.pushed
        rw [Mailbox.pushed_drop]
        exact carried
      · exact held_mono s _ held rfl (fun _ => Mailbox.closed_drop s.out) kept
  | execute spawn now frame rest handled arrived ran =>
      refine ⟨⟨front, held, received, carried, kept⟩, ?handed, ?performed, ?pending, ?reports⟩
      case handed =>
        change s.out.taken = List.map Execution.frame (s.executed ++ [⟨frame, handled⟩]) ++ rest
        rw [piped.handed, arrived, List.map_append, List.append_assoc]
        rfl
      case performed =>
        intro execution member
        rcases List.mem_append.mp member with old | new
        · exact piped.performed execution old
        · cases List.mem_singleton.mp new
          exact ⟨spawn, now, ran⟩
      case pending =>
        intro outcome ready
        exact ⟨⟨frame, handled⟩, List.mem_append_right _ (List.mem_singleton_self _), ready⟩
      case reports =>
        intro outcome member
        obtain ⟨execution, old, same⟩ := piped.reports outcome member
        exact ⟨execution, List.mem_append_left _ old, same⟩
  | report outcome ready =>
      refine ⟨⟨front, held, received, carried, kept⟩, piped.handed, piped.performed, (fun _ none => nomatch none), ?_⟩
      intro result member
      rcases List.mem_append.mp member with old | new
      · exact piped.reports result old
      · cases List.mem_singleton.mp new
        exact piped.pending outcome ready
  | reportFails outcome ready =>
      exact ⟨⟨front, held, received, carried, kept⟩, piped.handed, piped.performed, (fun _ none => nomatch none), piped.reports⟩
  | leave =>
      exact ⟨⟨front, held, received, carried, kept⟩, piped.handed, piped.performed, piped.pending, piped.reports⟩

theorem piped_opened (executor : Executor) : Piped (CommandStream.opened executor) :=
  ⟨⟨[], [], rfl, .nil, rfl⟩, rfl, (fun _ member => nomatch member), (fun _ none => nomatch none),
    (fun _ member => nomatch member)⟩

end Hpc.Plane
