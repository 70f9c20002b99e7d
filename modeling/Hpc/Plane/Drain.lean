import Hpc.Lib.Progress
import Hpc.Plane.Loss

set_option autoImplicit false

namespace Hpc.Plane

open Hpc.Core Hpc.Wire Hpc.Daemon Hpc.Agent Hpc.Lib Executor

-- What carries commands on: the bridge receives and sends, the transport takes over, the agent runs a command and reports.
-- Nobody hangs up and no report fails.
inductive Carrying : StreamLabel → Prop where
  | recv : Carrying .recv
  | forward (now : UInt64) : Carrying (.forward now)
  | transmit : Carrying .transmit
  | execute (spawn : Argv → Spawn) (now : UInt64) : Carrying (.execute spawn now)
  | report : Carrying .report

def Pumps (sid : Nat) (label : RelayLabel) : Prop := ∃ step, label = .stream sid step ∧ Carrying step

def Bridge.load : Bridge → Nat
  | .sending _ => 1
  | _ => 0

-- The steps that what is in the pipeline still needs: five for a command in the channel, fewer the further it has come.
def CommandStream.backlog (s : CommandStream) : Nat :=
  5 * s.commands.queue.length + 4 * s.bridge.load + 3 * s.out.queue.length + 2 * s.wire.length + s.reporting.toList.length

theorem backlog_bound (s : CommandStream) : s.backlog ≤ 517 + 2 * s.wire.length := by
  have queued := s.commands.fits
  have waiting := s.out.fits
  have held : s.bridge.load ≤ 1 := by cases s.bridge <;> simp [Bridge.load]
  have pending : s.reporting.toList.length ≤ 1 := by cases s.reporting <;> simp
  rw [CommandStream.backlog]
  omega

def Emptied (s : CommandStream) : Prop :=
  s.commands.queue = [] ∧ s.bridge.load = 0 ∧ s.out.queue = [] ∧ s.wire = [] ∧ s.reporting = none

theorem execute_ready (gone : Bool) (s next : CommandStream) (spawn : Argv → Spawn) (now : UInt64)
    (taken : streamStep gone s (.execute spawn now) = some next) : s.inbound = true ∧ s.reporting = none := by
  simp only [streamStep] at taken
  split at taken
  · rename_i reading free _
    exact ⟨reading, free⟩
  · cases taken

theorem carrying_descends (gone : Bool) (s next : CommandStream) (label : StreamLabel) (carrying : Carrying label)
    (taken : streamStep gone s label = some next) :
    next.backlog < s.backlog ∧ next.out.closed = s.out.closed ∧ next.inbound = s.inbound := by
  have move := stream_step_moves gone s next label taken
  cases carrying with
  | recv =>
      cases move with
      | recv delivery commands idle popped =>
          obtain ⟨queued, _⟩ := Mailbox.pop_spec _ _ _ popped
          have longer : s.commands.queue.length = commands.queue.length + 1 := by rw [queued, List.length_cons]
          refine ⟨?_, rfl, rfl⟩
          simp only [CommandStream.backlog, idle, Bridge.load]
          omega
  | forward now =>
      cases move with
      | forward now delivery out held pushed =>
          obtain ⟨live, _, _, queued, _, still, _⟩ := Mailbox.push_spec _ _ _ pushed
          refine ⟨?_, still.trans live.symm, rfl⟩
          simp only [CommandStream.backlog, held, Bridge.load, queued, List.length_append, List.length_singleton]
          omega
  | transmit =>
      cases move with
      | transmit frame out popped =>
          obtain ⟨queued, _, _, closed, _⟩ := Mailbox.pop_spec _ _ _ popped
          have longer : s.out.queue.length = out.queue.length + 1 := by rw [queued, List.length_cons]
          refine ⟨?_, closed, rfl⟩
          simp only [CommandStream.backlog, List.length_append, List.length_singleton]
          omega
  | execute spawn now =>
      obtain ⟨_, free⟩ := execute_ready gone s next spawn now taken
      cases move with
      | execute _ _ frame rest handled arrived ran =>
          have answers : handled.outcome.toList.length ≤ 1 := by cases handled.outcome <;> simp
          refine ⟨?_, rfl, rfl⟩
          simp only [CommandStream.backlog, arrived, free, List.length_cons, Option.toList_none, List.length_nil]
          omega
  | report =>
      cases move with
      | report outcome ready =>
          refine ⟨?_, rfl, rfl⟩
          simp only [CommandStream.backlog, ready, Option.toList_none, Option.toList_some, List.length_nil,
            List.length_singleton]
          omega

theorem carrying_or_emptied (gone : Bool) (s : CommandStream) (client : s.out.closed = false) (agent : s.inbound = true)
    (stopped : s.bridge.ended = true → s.commands.queue = []) :
    (∃ label, Carrying label ∧ ∃ next, streamStep gone s label = some next) ∨ Emptied s := by
  cases pending : s.reporting with
  | some outcome => exact Or.inl ⟨.report, .report, _, congrArg (Option.map _) pending⟩
  | none =>
      cases handed : s.wire with
      | cons frame rest =>
          refine Or.inl ⟨.execute (fun _ => .exited none "" "") 0, .execute _ _, ?_⟩
          simp only [streamStep, agent, pending, handed]
          exact ⟨_, rfl⟩
      | nil =>
          cases waiting : s.out.queue with
          | cons frame rest =>
              obtain ⟨out, popped, _⟩ := Mailbox.pop_ready s.out frame rest waiting
              exact Or.inl ⟨.transmit, .transmit, _, congrArg (Option.map _) popped⟩
          | nil =>
              cases phase : s.bridge with
              | sending delivery =>
                  have room : s.out.queue.length < 64 := by simp [waiting]
                  obtain ⟨out, pushed⟩ := Mailbox.push_room s.out ⟨delivery.call, toPbCommand 0 delivery.command⟩ client room
                  refine Or.inl ⟨.forward 0, .forward 0, ?_⟩
                  simp only [streamStep, phase, pushed]
                  exact ⟨_, rfl⟩
              | selecting =>
                  cases queued : s.commands.queue with
                  | cons delivery rest =>
                      obtain ⟨commands, popped, _⟩ := Mailbox.pop_ready s.commands delivery rest queued
                      refine Or.inl ⟨.recv, .recv, ?_⟩
                      simp only [streamStep, phase, popped]
                      exact ⟨_, rfl⟩
                  | nil => exact Or.inr ⟨queued, by rw [phase]; rfl, waiting, handed, pending⟩
              | detaching => exact Or.inr ⟨stopped (by rw [phase]; rfl), by rw [phase]; rfl, waiting, handed, pending⟩
              | finished => exact Or.inr ⟨stopped (by rw [phase]; rfl), by rw [phase]; rfl, waiting, handed, pending⟩

-- As long as the session lasts, what it has run is what it has reported and the report it is making. What has been reported
-- is in the table, and the receiver of the channel goes with the bridge task.
structure Settled (outcomes : StrMap CommandOutcome) (s : CommandStream) : Prop where
  answering : s.inbound = true →
    s.executed.filterMap (fun execution => execution.handled.outcome) = s.reported ++ s.reporting.toList
  recorded : ∀ outcome ∈ s.reported, outcome.commandId ∈ outcomes
  stopped : s.bridge = .finished ↔ s.commands.closed = true

def Grows (outcomes next : StrMap CommandOutcome) : Prop := ∀ id : String, id ∈ outcomes → id ∈ next

theorem settled_grows (outcomes next : StrMap CommandOutcome) (grows : Grows outcomes next) (s : CommandStream)
    (before : Settled outcomes s) : Settled next s :=
  ⟨before.answering, fun outcome member => grows _ (before.recorded outcome member), before.stopped⟩

theorem record_grows (relay : Relay) (s : CommandStream) (label : StreamLabel) :
    Grows relay.outcomes (relay.recordReport s label) := by
  intro id member
  cases label with
  | report =>
      simp only [Relay.recordReport]
      cases s.reporting with
      | none => exact member
      | some outcome => exact Std.ExtTreeMap.mem_insert.mpr (Or.inr member)
  | _ => exact member

theorem stopped_running (s next : CommandStream) (running : s.bridge ≠ .finished) (still : next.bridge ≠ .finished)
    (closed : next.commands.closed = s.commands.closed) (stopped : s.bridge = .finished ↔ s.commands.closed = true) :
    next.bridge = .finished ↔ next.commands.closed = true := by
  rw [closed, ← stopped]
  exact iff_of_false still running

theorem settled_streamed (relay : Relay) (gone : Bool) (s next : CommandStream) (label : StreamLabel)
    (before : Settled relay.outcomes s) (taken : streamStep gone s label = some next) :
    Settled (relay.recordReport s label) next := by
  have kept := settled_grows _ _ (record_grows relay s label) s before
  have move := stream_step_moves gone s next label taken
  have running := fun there still => stopped_running s next there still (stream_keeps gone s next label move).closed kept.stopped
  cases move with
  | execute spawn now frame rest handled arrived ran =>
      obtain ⟨reading, free⟩ := execute_ready gone s _ spawn now taken
      refine ⟨fun _ => ?_, kept.recorded, kept.stopped⟩
      have sofar := kept.answering reading
      rw [free, Option.toList_none, List.append_nil] at sofar
      rw [List.filterMap_append, sofar]
      cases answer : handled.outcome <;> simp [answer]
  | report outcome ready =>
      refine ⟨fun reading => ?_, fun old member => ?_, kept.stopped⟩
      · have sofar := kept.answering reading
        rw [ready] at sofar
        simpa using sofar
      · rcases List.mem_append.mp member with earlier | last
        · exact kept.recorded old earlier
        · rw [List.mem_singleton.mp last]
          simp [Relay.recordReport, ready]
  | reportFails outcome ready => exact ⟨nofun, kept.recorded, kept.stopped⟩
  | leave => exact ⟨nofun, kept.recorded, kept.stopped⟩
  | recv delivery commands idle popped => exact ⟨kept.answering, kept.recorded, running (idle ▸ nofun) nofun⟩
  | recvNone idle senderless empty => exact ⟨kept.answering, kept.recorded, running (idle ▸ nofun) nofun⟩
  | closed idle hungUp => exact ⟨kept.answering, kept.recorded, running (idle ▸ nofun) nofun⟩
  | forward now delivery out held pushed => exact ⟨kept.answering, kept.recorded, running (held ▸ nofun) nofun⟩
  | forwardFails delivery held hungUp => exact ⟨kept.answering, kept.recorded, running (held ▸ nofun) nofun⟩
  | transmit frame out popped => exact ⟨kept.answering, kept.recorded, kept.stopped⟩
  | hangUp => exact ⟨kept.answering, kept.recorded, kept.stopped⟩

structure Flowing (relay : Relay) : Prop where
  posted : Posted relay
  intact : EverySlot (Intact relay) relay.streams
  settled : EverySlot (fun _ => Settled relay.outcomes) relay.streams

theorem settled_step (relay next : Relay) (label : RelayLabel)
    (settled : EverySlot (fun _ => Settled relay.outcomes) relay.streams) (taken : relayStep relay label = some next) :
    EverySlot (fun _ => Settled next.outcomes) next.streams := by
  cases label with
  | stream sid step =>
      obtain ⟨s, present, stepped⟩ := Option.bind_eq_some_iff.mp taken
      obtain ⟨after, ran, rfl⟩ := Option.map_eq_some_iff.mp stepped
      refine every_slot_set _ relay.streams sid s after present ?_
        (settled_streamed relay _ s after step (settled sid s present) ran)
      exact every_slot_mono _ _ _ (fun _ => settled_grows _ _ (record_grows relay s step)) settled
  | stepDispatch index =>
      cases relay_step_moves relay next _ taken with
      | sent index sid dispatch s commands here phase present pushed =>
          obtain ⟨live, _, _, _, _, still, _⟩ := Mailbox.push_spec _ _ _ pushed
          have kept := settled sid s present
          have stopped := kept.stopped
          rw [live, ← still] at stopped
          exact every_slot_set _ relay.streams sid s _ present settled ⟨kept.answering, kept.recorded, stopped⟩
      | _ => exact settled
  | stepStream index =>
      cases relay_step_moves relay next _ taken with
      | attached index opening here phase =>
          exact every_slot_push _ relay.streams _ settled ⟨fun _ => rfl, nofun, ⟨nofun, nofun⟩⟩
      | _ => exact settled
  | detach sid =>
      cases relay_step_moves relay next _ taken with
      | detached _ s present ending =>
          have kept := settled sid s present
          exact every_slot_set _ relay.streams sid s _ present settled ⟨kept.answering, kept.recorded, iff_of_true rfl rfl⟩
  | _ => cases relay_step_moves relay next _ taken <;> exact settled

theorem flowing_step (relay next : Relay) (label : RelayLabel) (flowing : Flowing relay)
    (taken : relayStep relay label = some next) : Flowing next :=
  ⟨posted_step relay next label flowing.posted taken, intact_step relay next label flowing.intact taken,
    settled_step relay next label flowing.settled taken⟩

theorem flowing_run (nodes : Finset NodeId) (labels : List RelayLabel) (relay : Relay)
    (ran : runFrom relayStep (Relay.boot nodes) labels = some relay) : Flowing relay :=
  run_invariant relayStep Flowing (fun relay label next flowing taken => flowing_step relay next label flowing taken)
    (Relay.boot nodes) relay labels ⟨posted_boot nodes, every_slot_nil _, every_slot_nil _⟩ ran

structure Drained (dispatches : List Dispatch) (relay : Relay) (sid : Nat) (s : CommandStream) : Prop where
  present : relay.streams[sid]? = some s
  executed : List.Forall₂ Carries s.commands.pushed (s.executed.map Execution.frame)
  reported : s.reported = s.executed.filterMap fun execution => execution.handled.outcome
  answered : ∀ (call : Nat) (dispatch : Dispatch), dispatches[call]? = some dispatch → dispatch.phase = .accepted sid →
    (∃ execution ∈ s.executed, Carries ⟨call, dispatch.command⟩ execution.frame) ∧
      dispatch.command.commandId ∈ relay.outcomes

theorem emptied_executed (relay : Relay) (sid : Nat) (s : CommandStream) (piped : Piped s) (intact : Intact relay sid s)
    (client : s.out.closed = false) (emptied : Emptied s) :
    List.Forall₂ Carries s.commands.pushed (s.executed.map Execution.frame) := by
  obtain ⟨queued, unloaded, waiting, handed, _⟩ := emptied
  obtain ⟨front, held, taken, carried, kept⟩ := piped.forwarded
  have unlost : s.commands.lost = [] := (intact.resolve_left (by simp [client])).1
  have none : held = [] := by
    cases phase : s.bridge with
    | sending delivery => simp [phase, Bridge.load] at unloaded
    | _ => simpa [Held, phase, client] using kept
  have sent := piped.handed
  rw [handed, List.append_nil] at sent
  rw [Mailbox.pushed, waiting, s.out.kept client, List.append_nil, List.append_nil, sent] at carried
  rw [Mailbox.pushed, queued, unlost, taken, none]
  simpa using carried

theorem emptied_drained (relay : Relay) (flowing : Flowing relay) (sid : Nat) (s : CommandStream)
    (present : relay.streams[sid]? = some s) (client : s.out.closed = false) (agent : s.inbound = true)
    (emptied : Emptied s) : Drained relay.dispatches relay sid s := by
  have piped := flowing.posted.piped sid s present
  have settled := flowing.settled sid s present
  have executed := emptied_executed relay sid s piped (flowing.intact sid s present) client emptied
  have reported := settled.answering agent
  rw [emptied.2.2.2.2, Option.toList_none, List.append_nil] at reported
  refine ⟨present, executed, reported.symm, fun call dispatch found accepted => ?_⟩
  obtain ⟨t, here, node⟩ := flowing.posted.addressed call dispatch found sid (Or.inr accepted)
  cases present.symm.trans here
  have entered : (⟨call, dispatch.command⟩ : Delivery) ∈ s.commands.pushed := by
    rw [flowing.posted.entered sid s present, found, node, ← accepted]
  obtain ⟨frame, member, carries⟩ :=
    related_mem (fun frame sent => Carries sent frame) _ _ executed.flip ⟨call, dispatch.command⟩ entered
  obtain ⟨execution, done, rfl⟩ := List.mem_map.mp member
  refine ⟨⟨execution, done, carries⟩, ?_⟩
  obtain ⟨_, sentAt, message⟩ := carries
  obtain ⟨spawn, now, handled⟩ := piped.performed execution done
  obtain ⟨payload, holds, named⟩ := to_pb_command_payload sentAt dispatch.command
  rw [← message] at holds
  obtain ⟨outcome, answered, ids, _⟩ := execute_command_outcome s.executor ⟨execution.frame.message, spawn, now⟩ payload holds
  rw [← handled] at answered
  have told : outcome ∈ s.reported := by
    rw [← reported]
    exact List.mem_filterMap.mpr ⟨execution, done, answered⟩
  have entry := settled.recorded outcome told
  rwa [ids, named] at entry

theorem pump_spec (relay next : Relay) (sid : Nat) (s : CommandStream) (label : RelayLabel) (pumps : Pumps sid label)
    (present : relay.streams[sid]? = some s) (taken : relayStep relay label = some next) :
    next.dispatches = relay.dispatches ∧ ∃ t, next.streams[sid]? = some t ∧ t.backlog < s.backlog ∧
      t.out.closed = s.out.closed ∧ t.inbound = s.inbound := by
  obtain ⟨step, rfl, carrying⟩ := pumps
  obtain ⟨old, here, stepped⟩ := Option.bind_eq_some_iff.mp taken
  cases present.symm.trans here
  obtain ⟨t, ran, rfl⟩ := Option.map_eq_some_iff.mp stepped
  have there : (relay.streams.set sid t)[sid]? = some t := (slot_set relay.streams sid sid s t present).trans (if_pos rfl)
  exact ⟨rfl, t, there, carrying_descends _ s t step carrying ran⟩

structure InUse (dispatches : List Dispatch) (sid : Nat) (relay : Relay) : Prop where
  flowing : Flowing relay
  calls : relay.dispatches = dispatches
  live : ∃ s : CommandStream, relay.streams[sid]? = some s ∧ s.out.closed = false ∧ s.inbound = true

def Relay.backlog (relay : Relay) (sid : Nat) : Nat := (relay.streams[sid]?).elim 0 CommandStream.backlog

theorem backlog_present (relay : Relay) (sid : Nat) (s : CommandStream) (present : relay.streams[sid]? = some s) :
    relay.backlog sid = s.backlog := by
  rw [Relay.backlog, present, Option.elim_some]

theorem pump_descends (dispatches : List Dispatch) (sid : Nat) (relay next : Relay) (label : RelayLabel)
    (before : InUse dispatches sid relay) (pumps : Pumps sid label) (taken : relayStep relay label = some next) :
    InUse dispatches sid next ∧ next.backlog sid < relay.backlog sid := by
  obtain ⟨s, present, client, agent⟩ := before.live
  obtain ⟨calls, t, there, less, closed, inbound⟩ := pump_spec relay next sid s label pumps present taken
  refine ⟨⟨flowing_step relay next label before.flowing taken, calls.trans before.calls, ?_⟩, ?_⟩
  · exact ⟨t, there, closed.trans client, inbound.trans agent⟩
  · rw [backlog_present relay sid s present, backlog_present next sid t there]
    exact less

theorem pump_or_drained (dispatches : List Dispatch) (sid : Nat) (relay : Relay) (inUse : InUse dispatches sid relay) :
    (∃ label, Pumps sid label ∧ ∃ next, relayStep relay label = some next) ∨ ∃ s, Drained dispatches relay sid s := by
  obtain ⟨s, present, client, agent⟩ := inUse.live
  have stopped : s.bridge.ended = true → s.commands.queue = [] := fun ended =>
    (((inUse.flowing.intact sid s present).resolve_left (by simp [client])).2 ended).2
  rcases carrying_or_emptied (relay.sendersGone sid) s client agent stopped with ⟨step, carrying, next, enabled⟩ | emptied
  · refine Or.inl ⟨.stream sid step, ⟨step, rfl, carrying⟩, ?_⟩
    simp only [relayStep, present, Option.bind_some, enabled, Option.map_some]
    exact ⟨_, rfl⟩
  · have drained := emptied_drained relay inUse.flowing sid s present client agent emptied
    rw [inUse.calls] at drained
    exact Or.inr ⟨s, drained⟩

-- From every state that can be reached, the commands a stream in use has accepted can all be carried out by the steps of
-- that stream alone. There are so many of these at most, in whatever order they come, and they run out only when all is done.
theorem stream_drains (nodes : Finset NodeId) (labels : List RelayLabel) (relay : Relay)
    (ran : runFrom relayStep (Relay.boot nodes) labels = some relay) (sid : Nat) (s : CommandStream)
    (present : relay.streams[sid]? = some s) (client : s.out.closed = false) (agent : s.inbound = true) :
    Within relayStep (Pumps sid) (fun later => ∃ t, Drained relay.dispatches later sid t) (517 + 2 * s.wire.length) relay ∧
      ∀ (work : List RelayLabel) (later : Relay), (∀ label ∈ work, Pumps sid label) → runFrom relayStep relay work = some later →
        work.length ≤ 517 + 2 * s.wire.length ∧
          ((∀ label, Pumps sid label → relayStep later label = none) → ∃ t, Drained relay.dispatches later sid t) := by
  have start : InUse relay.dispatches sid relay := ⟨flowing_run nodes labels relay ran, rfl, s, present, client, agent⟩
  have bound : relay.backlog sid ≤ 517 + 2 * s.wire.length :=
    (backlog_present relay sid s present).trans_le (backlog_bound s)
  apply And.intro
  · have near := within_of_measure relayStep (Pumps sid) (fun later => ∃ t, Drained relay.dispatches later sid t)
      (InUse relay.dispatches sid) (fun state => state.backlog sid) (fun state inUse undrained => by
        obtain ⟨label, pumps, next, taken⟩ := (pump_or_drained _ sid state inUse).resolve_right undrained
        exact ⟨label, next, pumps, taken, pump_descends _ sid state next label inUse pumps taken⟩) relay start
    exact within_mono relayStep _ _ _ _ _ relay bound (fun _ reached => reached.2) near
  · intro work later pumping pumped
    obtain ⟨inUse, steps⟩ := run_bounded relayStep (Pumps sid) (InUse relay.dispatches sid) (fun state => state.backlog sid)
      (fun state label next inUse pumps taken => pump_descends _ sid state next label inUse pumps taken)
      relay later work start pumping pumped
    refine ⟨by omega, fun stuck => (pump_or_drained _ sid later inUse).resolve_left ?_⟩
    rintro ⟨label, pumps, next, taken⟩
    cases (stuck label pumps).symm.trans taken

theorem accepted_unmount_drains : ∃ (relay : Relay) (s : CommandStream),
    runFrom relayStep (Relay.boot {"n1"}) sampleAccepted = some relay ∧ relay.streams[0]? = some s ∧
      Within relayStep (Pumps 0) (fun later => ∃ t, Drained relay.dispatches later 0 t) 517 relay :=
  ⟨_, _, rfl, rfl, (stream_drains {"n1"} sampleAccepted _ rfl 0 _ rfl rfl rfl).1⟩

end Hpc.Plane
