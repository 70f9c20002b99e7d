import Hpc.Plane.Delivery

set_option autoImplicit false

namespace Hpc.Plane

open Hpc.Core Hpc.Wire Hpc.Daemon Hpc.Agent Hpc.Lib

def Traced (relay : Relay) (s : CommandStream) (delivery : Delivery) : Prop :=
  delivery ∈ s.commands.queue ∨ s.bridge = .sending delivery ∨ (∃ frame ∈ s.out.queue, Carries delivery frame) ∨
    (∃ frame ∈ s.out.taken, Carries delivery frame) ∨
    ∃ outcome : CommandOutcome, relay.outcomes[delivery.command.commandId]? = some outcome ∧
      outcome.commandId = delivery.command.commandId

def Senderless (relay : Relay) (sid : Nat) : Prop :=
  (∀ node : NodeId, relay.channels[node]? ≠ some sid) ∧ ∀ dispatch ∈ relay.dispatches, dispatch.phase ≠ .sending sid

def Intact (relay : Relay) (sid : Nat) (s : CommandStream) : Prop :=
  s.out.closed = true ∨
    (s.commands.lost = [] ∧ (s.bridge.ended = true → Senderless relay sid ∧ s.commands.queue = []))

theorem intact_senders (relay next : Relay) (sid : Nat) (s : CommandStream)
    (senders : Senderless relay sid → Senderless next sid) (before : Intact relay sid s) : Intact next sid s := by
  rcases before with hungUp | ⟨unlost, ended⟩
  · exact Or.inl hungUp
  · exact Or.inr ⟨unlost, fun stopped => ⟨senders (ended stopped).1, (ended stopped).2⟩⟩

theorem senderless_phase (relay : Relay) (sid index : Nat) (dispatch : Dispatch) (phase : DispatchPhase)
    (before : Senderless relay sid) (other : phase ≠ .sending sid) :
    Senderless (relay.setDispatch index dispatch phase) sid := by
  refine ⟨before.1, fun found member => ?_⟩
  rcases List.mem_or_eq_of_mem_set member with old | new
  · exact before.2 found old
  · rw [new]
    exact other

theorem senderless_shrinks (relay next : Relay) (sid : Nat) (shrinks : Shrinks relay.channels next.channels)
    (dispatches : next.dispatches = relay.dispatches) (before : Senderless relay sid) : Senderless next sid :=
  ⟨fun node found => before.1 node (shrinks node sid found), dispatches ▸ before.2⟩

theorem senderless_step (relay next : Relay) (label : RelayLabel) (taken : relayStep relay label = some next) (sid : Nat)
    (old : sid < relay.streams.length) (before : Senderless relay sid) : Senderless next sid := by
  cases relay_step_moves relay next label taken with
  | callDispatch node command =>
      refine ⟨before.1, fun dispatch member => ?_⟩
      rcases List.mem_append.mp member with earlier | last
      · exact before.2 dispatch earlier
      · rw [List.mem_singleton.mp last]
        exact nofun
  | lookedUp index dispatch here phase =>
      rcases looked_up_phase relay dispatch.node with ⟨_, clone⟩ | ⟨e, unknown⟩
      · exact senderless_phase relay sid index dispatch _ before (clone ▸ nofun)
      · exact senderless_phase relay sid index dispatch _ before (unknown ▸ nofun)
  | cloned index dispatch here phase =>
      rcases cloned_phase relay dispatch.node with ⟨held, found, sending⟩ | ⟨e, absent⟩
      · apply senderless_phase relay sid index dispatch _ before
        intro same
        cases sending.symm.trans same
        exact before.1 dispatch.node found
      · exact senderless_phase relay sid index dispatch _ before (absent ▸ nofun)
  | refused index held dispatch s e here phase present closed =>
      exact senderless_phase relay sid index dispatch _ before nofun
  | sent index held dispatch s commands here phase present pushed =>
      exact senderless_phase relay sid index dispatch _ before nofun
  | attached index opening here phase =>
      refine ⟨fun node found => ?_, before.2⟩
      change (relay.channels.insert opening.node relay.streams.length)[node]? = some sid at found
      rw [lookup_insert] at found
      by_cases same : opening.node = node
      · rw [if_pos same] at found
        have newest : relay.streams.length = sid := Option.some.inj found
        omega
      · rw [if_neg same] at found
        exact before.1 node found
  | cleared index call here phase =>
      exact senderless_shrinks relay _ sid (shrinks_erase relay.channels call.node) rfl before
  | detached query s present ending =>
      exact senderless_shrinks relay _ sid (shrinks_erase relay.channels s.node) rfl before
  | _ => exact before

theorem intact_streamed (relay : Relay) (sid : Nat) (s after : CommandStream) (label : StreamLabel)
    (before : Intact relay sid s) (move : StreamMove (relay.sendersGone sid) s label after) : Intact relay sid after := by
  have keeps := stream_keeps _ s after label move
  rcases before with hungUp | ⟨unlost, ended⟩
  · exact Or.inl (keeps.hungUp hungUp)
  · by_cases hungUp : after.out.closed = true
    · exact Or.inl hungUp
    · refine Or.inr ⟨keeps.lost.trans unlost, fun stopped => ?_⟩
      rcases stream_ends _ s after label move stopped with away | ⟨same, already | ⟨gone, empty⟩⟩
      · exact absurd away hungUp
      · rw [same]
        exact ended already
      · rw [same]
        exact ⟨(senders_gone_iff relay sid).mp gone, empty⟩

theorem intact_detached (relay : Relay) (sid : Nat) (s : CommandStream) (before : Intact relay sid s)
    (ending : s.bridge = .detaching) : Intact relay sid { s with bridge := .finished, commands := s.commands.drop } := by
  rcases before with hungUp | ⟨unlost, ended⟩
  · exact Or.inl hungUp
  · obtain ⟨senderless, empty⟩ := ended (by rw [ending]; rfl)
    refine Or.inr ⟨?_, fun _ => ⟨senderless, rfl⟩⟩
    change s.commands.lost ++ s.commands.queue = []
    rw [unlost, empty, List.append_nil]

theorem intact_step (relay next : Relay) (label : RelayLabel) (intact : EverySlot (Intact relay) relay.streams)
    (taken : relayStep relay label = some next) : EverySlot (Intact next) next.streams := by
  have still : EverySlot (Intact next) relay.streams := by
    intro sid s present
    have old := slot_bound _ _ _ present
    exact intact_senders relay next sid s (senderless_step relay next label taken sid old) (intact sid s present)
  cases relay_step_moves relay next label taken with
  | sent index sid dispatch s commands here phase present pushed =>
      obtain ⟨_, _, _, _, lost, _⟩ := Mailbox.push_spec _ _ _ pushed
      apply every_slot_set _ relay.streams sid s _ present still
      rcases intact sid s present with hungUp | ⟨unlost, ended⟩
      · exact Or.inl hungUp
      · refine Or.inr ⟨lost.trans unlost, fun stopped => ?_⟩
        have none := (ended stopped).1.2 dispatch (List.mem_of_getElem? here)
        exact absurd phase none
  | attached index opening here phase =>
      have fresh : ∀ sid, Intact (relay.attachChannel index opening) sid (CommandStream.opened opening.executor) :=
        fun sid => Or.inr ⟨rfl, fun stopped => nomatch stopped⟩
      exact every_slot_push _ relay.streams _ still (fresh _)
  | streamed sid s after label present move =>
      apply every_slot_set _ relay.streams sid s after present still
      exact intact_senders relay _ sid after id (intact_streamed relay sid s after label (intact sid s present) move)
  | detached sid s present ending =>
      apply every_slot_set _ relay.streams sid s _ present still
      exact intact_detached _ sid s (still sid s present) ending
  | _ => exact still

theorem accepted_step (relay next : Relay) (label : RelayLabel) (taken : relayStep relay label = some next) (call sid : Nat)
    (dispatch : Dispatch) (found : relay.dispatches[call]? = some dispatch) (accepted : dispatch.phase = .accepted sid) :
    next.dispatches[call]? = some dispatch := by
  have kept : ∀ (index : Nat) (old new : Dispatch), relay.dispatches[index]? = some old → old.phase ≠ .accepted sid →
      (relay.dispatches.set index new)[call]? = some dispatch := by
    intro index old new here other
    rw [slot_set relay.dispatches index call old new here, if_neg, found]
    intro same
    cases here.symm.trans (same ▸ found)
    exact other accepted
  cases relay_step_moves relay next label taken with
  | callDispatch node command => exact (List.getElem?_append_left (slot_bound _ _ _ found)).trans found
  | lookedUp index old here phase => exact kept index old _ here fun same => nomatch phase.symm.trans same
  | cloned index old here phase => exact kept index old _ here fun same => nomatch phase.symm.trans same
  | refused index held old s e here phase present closed => exact kept index old _ here fun same => nomatch phase.symm.trans same
  | sent index held old s commands here phase present pushed =>
      exact kept index old _ here fun same => nomatch phase.symm.trans same
  | _ => exact found

theorem traced_of_intact (relay : Relay) (sid : Nat) (s : CommandStream) (piped : Piped s) (intact : Intact relay sid s)
    (delivery : Delivery) (entered : delivery ∈ s.commands.pushed) : Traced relay s delivery ∨ s.out.closed = true := by
  by_cases hungUp : s.out.closed = true
  · exact Or.inr hungUp
  · have unlost : s.commands.lost = [] := (intact.resolve_left hungUp).1
    have received : s.out.lost = [] := s.out.kept (by simpa using hungUp)
    obtain ⟨front, held, taken, carried, kept⟩ := piped.forwarded
    rw [Mailbox.pushed_split, unlost, List.append_nil, taken] at entered
    rw [Mailbox.pushed_split, received, List.append_nil] at carried
    apply Or.inl
    rcases List.mem_append.mp entered with before | queued
    · rcases List.mem_append.mp before with forwarded | holding
      · obtain ⟨frame, member, carries⟩ := related_mem (fun frame sent => Carries sent frame) _ _ carried.flip delivery forwarded
        rcases List.mem_append.mp member with handed | waiting
        · exact Or.inr (Or.inr (Or.inr (Or.inl ⟨frame, handed, carries⟩)))
        · exact Or.inr (Or.inr (Or.inl ⟨frame, waiting, carries⟩))
      · cases bridge : s.bridge with
        | selecting =>
            have none : held = [] := by simpa [Held, bridge] using kept
            rw [none] at holding
            cases holding
        | sending current =>
            have one : held = [current] := by simpa [Held, bridge] using kept
            rw [one, List.mem_singleton] at holding
            exact Or.inr (Or.inl (by rw [holding]; exact bridge))
        | detaching =>
            have none : held = [] := by simpa [Held, bridge, hungUp] using kept
            rw [none] at holding
            cases holding
        | finished =>
            have none : held = [] := by simpa [Held, bridge, hungUp] using kept
            rw [none] at holding
            cases holding
    · exact Or.inl queued

theorem accepted_traced (nodes : Finset NodeId) (before after : List RelayLabel) (middle relay : Relay)
    (ran : runFrom relayStep (Relay.boot nodes) before = some middle) (call sid : Nat) (dispatch : Dispatch)
    (here : middle.dispatches[call]? = some dispatch) (accepted : dispatch.phase = .accepted sid)
    (later : runFrom relayStep middle after = some relay) :
    ∃ s : CommandStream, relay.streams[sid]? = some s ∧ s.node = dispatch.node ∧
      (Traced relay s ⟨call, dispatch.command⟩ ∨ s.out.closed = true) := by
  have whole := (run_append relayStep (Relay.boot nodes) relay before after).mpr ⟨middle, ran, later⟩
  have posted := posted_run nodes (before ++ after) relay whole
  have intact : EverySlot (Intact relay) relay.streams :=
    run_invariant relayStep (fun relay => EverySlot (Intact relay) relay.streams)
      (fun relay label next intact taken => intact_step relay next label intact taken)
      (Relay.boot nodes) relay (before ++ after) (every_slot_nil _) whole
  have found : relay.dispatches[call]? = some dispatch :=
    run_invariant relayStep (fun relay => relay.dispatches[call]? = some dispatch)
      (fun relay label next found taken => accepted_step relay next label taken call sid dispatch found accepted)
      middle relay after here later
  obtain ⟨s, present, node⟩ := posted.addressed call dispatch found sid (Or.inr accepted)
  have entered : (⟨call, dispatch.command⟩ : Delivery) ∈ s.commands.pushed := by
    rw [posted.entered sid s present, found, node, ← accepted]
  exact ⟨s, present, node, traced_of_intact relay sid s (posted.piped sid s present) (intact sid s present) _ entered⟩

def sampleAccepted : List RelayLabel :=
  [.callStream sampleAgent, .stepStream 0, .stepStream 0, .callDispatch "n1" sampleUnmount, .stepDispatch 0, .stepDispatch 0,
    .stepDispatch 0]

theorem forwarded_traced : ∃ relay : Relay,
    runFrom relayStep (Relay.boot {"n1"}) (sampleAccepted ++ [.stream 0 .recv, .stream 0 (.forward 1000)]) = some relay ∧
      ∃ s : CommandStream, relay.streams[0]? = some s ∧ s.node = "n1" ∧ (Traced relay s ⟨0, sampleUnmount⟩ ∨ s.out.closed = true) :=
  ⟨_, rfl, accepted_traced {"n1"} sampleAccepted [.stream 0 .recv, .stream 0 (.forward 1000)] _ _ rfl 0 0
    ⟨"n1", sampleUnmount, .accepted 0⟩ rfl rfl rfl⟩

-- The agent goes away before the task of its stream has received the command: the task ends, and its receiver is dropped
-- with the command in it.
theorem accepted_command_dropped : ∃ relay : Relay,
    runFrom relayStep (Relay.boot {"n1"}) (sampleAccepted ++ [.stream 0 .hangUp, .stream 0 .closed, .detach 0]) = some relay ∧
      relay.dispatches[0]? = some ⟨"n1", sampleUnmount, .accepted 0⟩ ∧
      ∀ s : CommandStream, relay.streams[0]? = some s → ¬ Traced relay s ⟨0, sampleUnmount⟩ := by
  refine ⟨_, rfl, rfl, fun s present traced => ?_⟩
  cases present
  rcases traced with queued | held | ⟨frame, waiting, _⟩ | ⟨frame, handed, _⟩ | ⟨outcome, recorded, _⟩
  · cases queued
  · cases held
  · cases waiting
  · cases handed
  · cases recorded

end Hpc.Plane
