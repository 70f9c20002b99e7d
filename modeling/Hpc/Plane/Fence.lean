import Hpc.Plane.Delivery

set_option autoImplicit false

namespace Hpc.Plane

open Hpc.Core Hpc.Wire Hpc.Daemon Hpc.Agent Hpc.Lib

def DispatchPhase.running : DispatchPhase → Bool
  | .accepted _ => false
  | .refused _ => false
  | _ => true

def OpeningPhase.running : OpeningPhase → Bool
  | .lookup => true
  | .attach => true
  | _ => false

def DeregisterPhase.running : DeregisterPhase → Bool
  | .returned => false
  | _ => true

def DeregisterPhase.clearing : DeregisterPhase → Bool
  | .remove => true
  | .detach => true
  | _ => false

structure Quiet (relay : Relay) (node : NodeId) : Prop where
  dispatches : ∀ dispatch ∈ relay.dispatches, dispatch.node = node → dispatch.phase.running = false
  openings : ∀ opening ∈ relay.openings, opening.node = node → opening.phase.running = false
  deregistrations : ∀ call ∈ relay.deregistrations, call.node = node → call.phase.running = false

def FencedClear (relay : Relay) : Prop :=
  ∀ node ∈ relay.fenced, Quiet relay node → relay.channels[node]? = none

def RefusesFenced (relay : Relay) (label : RelayLabel) : Prop :=
  ∀ next : Relay, relayStep relay label = some next → ∀ (call sid : Nat) (dispatch : Dispatch),
    next.dispatches[call]? = some dispatch → dispatch.phase = .accepted sid → dispatch.node ∈ relay.fenced →
      relay.dispatches[call]? = some dispatch

def channelOpen (streams : List CommandStream) (sid : Nat) : Bool := (streams[sid]?).any fun s => !s.commands.closed

def Relay.canReach (relay : Relay) (dispatch : Dispatch) : Bool :=
  match dispatch.phase with
  | .clone => (relay.channels[dispatch.node]?).any (channelOpen relay.streams)
  | .sending sid => channelOpen relay.streams sid
  | _ => false

def Clearing (relay : Relay) (node : NodeId) : Prop :=
  ∃ call ∈ relay.deregistrations, call.node = node ∧ call.phase.clearing = true

-- A stream attaches only while its node is known, or a deregistration that is still going to detach it is under way and no
-- dispatch can meet it before. A deregistration returns only while its node is unknown and no dispatch that found the node
-- earlier can still reach a channel.
def KeepsFence (relay : Relay) : RelayLabel → Prop
  | .stepStream index => ∀ opening ∈ relay.openings[index]?, opening.phase = .attach → opening.node ∈ relay.nodes ∨
      (Clearing relay opening.node ∧ (opening.node ∈ relay.fenced →
        ∀ dispatch ∈ relay.dispatches, dispatch.node = opening.node → dispatch.phase ≠ .clone))
  | .stepDeregister index => ∀ call ∈ relay.deregistrations[index]?, call.phase = .delete → call.node ∉ relay.nodes ∧
      ∀ dispatch ∈ relay.dispatches, dispatch.node = call.node → relay.canReach dispatch = false
  | _ => True

instance (relay : Relay) (node : NodeId) : Decidable (Clearing relay node) :=
  inferInstanceAs (Decidable (∃ call ∈ relay.deregistrations, call.node = node ∧ call.phase.clearing = true))

instance (relay : Relay) : ∀ label, Decidable (KeepsFence relay label)
  | .stepStream index => inferInstanceAs (Decidable (∀ opening ∈ relay.openings[index]?, opening.phase = .attach →
      opening.node ∈ relay.nodes ∨ (Clearing relay opening.node ∧ (opening.node ∈ relay.fenced →
        ∀ dispatch ∈ relay.dispatches, dispatch.node = opening.node → dispatch.phase ≠ .clone))))
  | .stepDeregister index => inferInstanceAs (Decidable (∀ call ∈ relay.deregistrations[index]?, call.phase = .delete →
      call.node ∉ relay.nodes ∧
        ∀ dispatch ∈ relay.dispatches, dispatch.node = call.node → relay.canReach dispatch = false))
  | .register _ | .callDispatch _ _ | .stepDispatch _ | .callStream _ | .callDeregister _ | .stream _ _ | .detach _ =>
      isTrue trivial

structure Fence (relay : Relay) : Prop where
  unknown : ∀ node ∈ relay.fenced, node ∉ relay.nodes
  cleared : ∀ node : NodeId, node ∉ relay.nodes → relay.channels[node]? = none ∨ Clearing relay node
  harmless : ∀ dispatch ∈ relay.dispatches, dispatch.node ∈ relay.fenced → relay.canReach dispatch = false

theorem fence_unknown (relay next : Relay) (label : RelayLabel) (fence : Fence relay) (rule : KeepsFence relay label)
    (taken : relayStep relay label = some next) : ∀ node ∈ next.fenced, node ∉ next.nodes := by
  intro node fenced
  cases relay_step_moves relay next label taken with
  | register joined =>
      obtain ⟨other, before⟩ := Finset.mem_erase.mp fenced
      intro known
      rcases Finset.mem_insert.mp known with same | already
      · exact other same
      · exact fence.unknown node before already
  | removed index call here phase => exact fun known => fence.unknown node fenced (Finset.mem_of_mem_erase known)
  | returned index call here phase =>
      rcases Finset.mem_insert.mp fenced with same | before
      · rw [same]
        exact (rule call here phase).1
      · exact fence.unknown node before
  | _ => exact fence.unknown node fenced

theorem clearing_set (relay : Relay) (index : Nat) (call : Deregistration) (phase : DeregisterPhase) (node : NodeId)
    (here : relay.deregistrations[index]? = some call)
    (kept : call.node = node → call.phase.clearing = true → phase.clearing = true) (before : Clearing relay node) :
    Clearing (relay.setDeregistration index call phase) node := by
  obtain ⟨pending, member, same, clearing⟩ := before
  obtain ⟨position, found⟩ := List.getElem?_of_mem member
  have placed := slot_set relay.deregistrations index position call { call with phase := phase } here
  by_cases this : index = position
  · cases here.symm.trans (this ▸ found)
    rw [if_pos this] at placed
    exact ⟨_, List.mem_of_getElem? placed, same, kept same clearing⟩
  · rw [if_neg this, found] at placed
    exact ⟨pending, List.mem_of_getElem? placed, same, clearing⟩

theorem cleared_shrinks (relay next : Relay) (node : NodeId) (shrinks : Shrinks relay.channels next.channels)
    (before : relay.channels[node]? = none ∨ Clearing relay node) (kept : Clearing relay node → Clearing next node) :
    next.channels[node]? = none ∨ Clearing next node := by
  rcases before with absent | clearing
  · apply Or.inl
    cases found : next.channels[node]? with
    | none => rfl
    | some sid => cases absent.symm.trans (shrinks node sid found)
  · exact Or.inr (kept clearing)

theorem fence_cleared (relay next : Relay) (label : RelayLabel) (fence : Fence relay) (rule : KeepsFence relay label)
    (taken : relayStep relay label = some next) :
    ∀ node : NodeId, node ∉ next.nodes → next.channels[node]? = none ∨ Clearing next node := by
  have still : Shrinks relay.channels relay.channels := fun _ _ => id
  intro node unknown
  cases relay_step_moves relay next label taken with
  | register joined => exact fence.cleared node fun known => unknown (Finset.mem_insert_of_mem known)
  | attached index opening here phase =>
      change (relay.channels.insert opening.node relay.streams.length)[node]? = none ∨ Clearing relay node
      rw [lookup_insert]
      by_cases same : opening.node = node
      · rcases rule opening here phase with known | ⟨clearing, _⟩
        · exact absurd (same ▸ known) unknown
        · exact Or.inr (same ▸ clearing)
      · rw [if_neg same]
        exact fence.cleared node unknown
  | callDeregister leaving =>
      refine cleared_shrinks relay _ node still (fence.cleared node unknown) fun clearing => ?_
      obtain ⟨call, member, pending⟩ := clearing
      exact ⟨call, List.mem_append_left _ member, pending⟩
  | removed index call here phase =>
      by_cases same : call.node = node
      · have placed := slot_set relay.deregistrations index index call { call with phase := .detach } here
        rw [if_pos rfl] at placed
        exact Or.inr ⟨_, List.mem_of_getElem? placed, same, rfl⟩
      · have before : node ∉ relay.nodes := fun known => unknown (Finset.mem_erase_of_ne_of_mem (Ne.symm same) known)
        refine cleared_shrinks relay _ node still (fence.cleared node before) fun clearing => ?_
        exact clearing_set relay index call .detach node here (fun _ _ => rfl) clearing
  | cleared index call here phase =>
      by_cases same : call.node = node
      · apply Or.inl
        change (relay.channels.erase call.node)[node]? = none
        rw [lookup_erase, if_pos same]
      · apply cleared_shrinks relay _ node (shrinks_erase relay.channels call.node) (fence.cleared node unknown)
        exact clearing_set relay index call .delete node here fun this => absurd this same
  | returned index call here phase =>
      refine cleared_shrinks relay _ node still (fence.cleared node unknown) ?_
      apply clearing_set relay index call .returned node here
      intro _ clearing
      rw [phase] at clearing
      cases clearing
  | detached sid s present ending =>
      exact cleared_shrinks relay _ node (shrinks_erase relay.channels s.node) (fence.cleared node unknown) id
  | _ => exact fence.cleared node unknown

theorem open_set (streams : List CommandStream) (sid : Nat) (s after : CommandStream) (present : streams[sid]? = some s)
    (reopens : after.commands.closed = false → s.commands.closed = false) (query : Nat)
    (live : channelOpen (streams.set sid after) query = true) : channelOpen streams query = true := by
  unfold channelOpen at live ⊢
  rw [slot_set streams sid query s after present] at live
  by_cases same : sid = query
  · rw [if_pos same] at live
    rw [← same, present]
    simpa using reopens (by simpa using live)
  · rwa [if_neg same] at live

theorem channel_open_step (relay next : Relay) (label : RelayLabel) (taken : relayStep relay label = some next) (sid : Nat)
    (old : sid < relay.streams.length) (live : channelOpen next.streams sid = true) : channelOpen relay.streams sid = true := by
  cases relay_step_moves relay next label taken with
  | sent index held dispatch s commands here phase present pushed =>
      obtain ⟨unclosed, _⟩ := Mailbox.push_spec _ _ _ pushed
      exact open_set relay.streams held s _ present (fun _ => unclosed) sid live
  | attached index opening here phase =>
      unfold channelOpen at live ⊢
      change Option.any _ (relay.streams ++ [CommandStream.opened opening.executor])[sid]? = true at live
      rwa [List.getElem?_append_left old] at live
  | streamed held s after label present move =>
      have closed := (stream_keeps _ s after label move).closed
      exact open_set relay.streams held s after present (fun unclosed => closed.symm.trans unclosed) sid live
  | detached held s present ending => exact open_set relay.streams held s _ present (by simp) sid live
  | _ => exact live

theorem harmless_kept (relay next : Relay) (label : RelayLabel) (posted : Posted relay)
    (taken : relayStep relay label = some next) (dispatch : Dispatch) (member : dispatch ∈ relay.dispatches)
    (entries : dispatch.phase = .clone → ∀ sid, next.channels[dispatch.node]? = some sid →
      relay.channels[dispatch.node]? = some sid)
    (before : relay.canReach dispatch = false) : next.canReach dispatch = false := by
  have shut : ∀ (sid : Nat) (s : CommandStream), relay.streams[sid]? = some s → channelOpen relay.streams sid = false →
      channelOpen next.streams sid = false := by
    intro sid s present closed
    cases live : channelOpen next.streams sid with
    | false => rfl
    | true =>
        rw [channel_open_step relay next label taken sid (slot_bound _ _ _ present) live] at closed
        cases closed
  unfold Relay.canReach at before ⊢
  cases phase : dispatch.phase with
  | clone =>
      simp only [phase] at before ⊢
      cases found : next.channels[dispatch.node]? with
      | none => rfl
      | some sid =>
          have entry := entries phase sid found
          obtain ⟨s, present, _⟩ := posted.registered.entry dispatch.node sid entry
          rw [entry] at before
          exact shut sid s present before
  | sending sid =>
      simp only [phase] at before ⊢
      obtain ⟨position, found⟩ := List.getElem?_of_mem member
      obtain ⟨s, present, _⟩ := posted.addressed position dispatch found sid (Or.inl phase)
      exact shut sid s present before
  | _ => rfl

theorem harmless_phase (relay next : Relay) (index : Nat) (old : Dispatch) (phase : DispatchPhase)
    (fenced : Finset NodeId) (dispatches : next.dispatches = relay.dispatches.set index { old with phase := phase })
    (others : ∀ dispatch ∈ relay.dispatches, dispatch.node ∈ fenced → next.canReach dispatch = false)
    (here : old.node ∈ fenced → next.canReach { old with phase := phase } = false) :
    ∀ dispatch ∈ next.dispatches, dispatch.node ∈ fenced → next.canReach dispatch = false := by
  intro dispatch member gone
  rw [dispatches] at member
  rcases List.mem_or_eq_of_mem_set member with before | new
  · exact others dispatch before gone
  · rw [new] at gone ⊢
    exact here gone

theorem fence_harmless (relay next : Relay) (label : RelayLabel) (posted : Posted relay) (fence : Fence relay)
    (rule : KeepsFence relay label) (taken : relayStep relay label = some next) :
    ∀ dispatch ∈ next.dispatches, dispatch.node ∈ next.fenced → next.canReach dispatch = false := by
  have kept : Shrinks relay.channels next.channels → ∀ dispatch ∈ relay.dispatches, dispatch.node ∈ relay.fenced →
      next.canReach dispatch = false := by
    intro shrinks dispatch member fenced
    refine harmless_kept relay next label posted taken dispatch member ?_ (fence.harmless dispatch member fenced)
    exact fun _ sid found => shrinks dispatch.node sid found
  have still : Shrinks relay.channels relay.channels := fun _ _ => id
  cases relay_step_moves relay next label taken with
  | register joined =>
      exact fun dispatch member fenced => kept still dispatch member (Finset.mem_of_mem_erase fenced)
  | callDispatch node command =>
      intro dispatch member fenced
      rcases List.mem_append.mp member with before | new
      · exact kept still dispatch before fenced
      · rw [List.mem_singleton.mp new]
        rfl
  | lookedUp index dispatch here phase =>
      apply harmless_phase relay _ index dispatch _ relay.fenced rfl (kept still)
      intro fenced
      rcases looked_up_phase relay dispatch.node with ⟨known, _⟩ | ⟨e, unknown⟩
      · exact absurd known (fence.unknown dispatch.node fenced)
      · rw [unknown]
        rfl
  | cloned index dispatch here phase =>
      apply harmless_phase relay _ index dispatch _ relay.fenced rfl (kept still)
      intro fenced
      have before := fence.harmless dispatch (List.mem_of_getElem? here) fenced
      rcases cloned_phase relay dispatch.node with ⟨held, found, sending⟩ | ⟨e, absent⟩
      · rw [Relay.canReach, phase, found] at before
        rw [sending]
        exact before
      · rw [absent]
        rfl
  | refused index sid dispatch s e here phase present closed =>
      exact harmless_phase relay _ index dispatch _ relay.fenced rfl (kept still) fun _ => rfl
  | sent index sid dispatch s commands here phase present pushed =>
      exact harmless_phase relay _ index dispatch _ relay.fenced rfl (kept still) fun _ => rfl
  | attached index opening here phase =>
      intro dispatch member fenced
      refine harmless_kept relay _ _ posted taken dispatch member ?_ (fence.harmless dispatch member fenced)
      intro cloning sid found
      change (relay.channels.insert opening.node relay.streams.length)[dispatch.node]? = some sid at found
      rw [lookup_insert] at found
      by_cases same : opening.node = dispatch.node
      · rcases rule opening here phase with known | ⟨_, free⟩
        · exact absurd (same ▸ known) (fence.unknown dispatch.node fenced)
        · exact absurd cloning (free (same ▸ fenced) dispatch member same.symm)
      · rwa [if_neg same] at found
  | returned index call here phase =>
      intro dispatch member fenced
      rcases Finset.mem_insert.mp fenced with same | before
      · exact (rule call here phase).2 dispatch member same
      · exact kept still dispatch member before
  | cleared index call here phase => exact kept (shrinks_erase relay.channels call.node)
  | detached sid s present ending => exact kept (shrinks_erase relay.channels s.node)
  | _ => exact kept still

theorem fence_step (relay next : Relay) (label : RelayLabel) (before : Posted relay ∧ Fence relay)
    (rule : KeepsFence relay label) (taken : relayStep relay label = some next) : Posted next ∧ Fence next :=
  ⟨posted_step relay next label before.1 taken, fence_unknown relay next label before.2 rule taken,
    fence_cleared relay next label before.2 rule taken, fence_harmless relay next label before.1 before.2 rule taken⟩

theorem fenced_clear (relay : Relay) (fence : Fence relay) : FencedClear relay := by
  intro node fenced quiet
  rcases fence.cleared node (fence.unknown node fenced) with absent | ⟨call, member, same, clearing⟩
  · exact absent
  · have finished := quiet.deregistrations call member same
    cases phase : call.phase with
    | remove => rw [phase] at finished; cases finished
    | detach => rw [phase] at finished; cases finished
    | delete => rw [phase] at clearing; cases clearing
    | returned => rw [phase] at clearing; cases clearing

theorem refuses_fenced (relay : Relay) (label : RelayLabel) (fence : Fence relay) : RefusesFenced relay label := by
  intro next taken call sid dispatch found accepted fenced
  have kept : ∀ (index : Nat) (old : Dispatch) (phase : DispatchPhase), relay.dispatches[index]? = some old →
      (relay.dispatches.set index { old with phase := phase })[call]? = some dispatch → phase ≠ .accepted sid →
      relay.dispatches[call]? = some dispatch := by
    intro index old phase here placed other
    rw [slot_set relay.dispatches index call old _ here] at placed
    by_cases same : index = call
    · rw [if_pos same] at placed
      cases placed
      exact absurd accepted other
    · rwa [if_neg same] at placed
  cases relay_step_moves relay next label taken with
  | callDispatch node command =>
      change (relay.dispatches ++ [_])[call]? = some dispatch at found
      rw [slot_push] at found
      by_cases last : relay.dispatches.length = call
      · rw [if_pos last] at found
        cases found
        cases accepted
      · rwa [if_neg last] at found
  | lookedUp index old here phase =>
      apply kept index old _ here found
      rcases looked_up_phase relay old.node with ⟨_, clone⟩ | ⟨e, unknown⟩
      · rw [clone]; exact nofun
      · rw [unknown]; exact nofun
  | cloned index old here phase =>
      apply kept index old _ here found
      rcases cloned_phase relay old.node with ⟨held, _, sending⟩ | ⟨e, absent⟩
      · rw [sending]; exact nofun
      · rw [absent]; exact nofun
  | refused index held old s e here phase present closed => exact kept index old _ here found nofun
  | sent index held old s commands here phase present pushed =>
      obtain ⟨live, _⟩ := Mailbox.push_spec _ _ _ pushed
      change (relay.dispatches.set index _)[call]? = some dispatch at found
      rw [slot_set relay.dispatches index call old _ here] at found
      by_cases same : index = call
      · rw [if_pos same] at found
        cases found
        have reached := fence.harmless old (List.mem_of_getElem? here) fenced
        simp [Relay.canReach, phase, channelOpen, present, live] at reached
      · rwa [if_neg same] at found
  | _ => exact found

theorem fence_boot (nodes : Finset NodeId) : Posted (Relay.boot nodes) ∧ Fence (Relay.boot nodes) := by
  refine ⟨posted_boot nodes, ?_, fun node _ => Or.inl ?_, ?_⟩
  · intro node fenced
    cases Finset.notMem_empty node fenced
  · simp [Relay.boot]
  · intro dispatch member
    cases member

theorem deregistered_fenced (nodes : Finset NodeId) (labels : List RelayLabel)
    (rule : Obeys relayStep KeepsFence (Relay.boot nodes) labels) :
    Throughout relayStep FencedClear (Relay.boot nodes) labels ∧ Obeys relayStep RefusesFenced (Relay.boot nodes) labels := by
  have always : Throughout relayStep (fun relay => Posted relay ∧ Fence relay) (Relay.boot nodes) labels :=
    throughout_of_obeys relayStep (fun relay => Posted relay ∧ Fence relay) KeepsFence
      (fun relay label next before rule taken => fence_step relay next label before rule taken)
      (Relay.boot nodes) labels (fence_boot nodes) rule
  constructor
  · exact throughout_mono relayStep FencedClear _ (fun relay both => fenced_clear relay both.2) _ labels always
  · exact obeys_of_throughout relayStep _ RefusesFenced (fun relay label _ both _ => refuses_fenced relay label both.2) _ labels always

def sampleOrderly : List RelayLabel :=
  [.callStream sampleAgent, .stepStream 0, .stepStream 0, .callDispatch "n1" sampleUnmount, .stepDispatch 0, .stepDispatch 0,
    .stepDispatch 0, .callDeregister "n1", .stepDeregister 0, .stepDeregister 0, .stepDeregister 0,
    .callDispatch "n1" sampleUnmount, .stepDispatch 1]

theorem orderly_fenced : Throughout relayStep FencedClear (Relay.boot {"n1"}) sampleOrderly ∧
    Obeys relayStep RefusesFenced (Relay.boot {"n1"}) sampleOrderly :=
  deregistered_fenced {"n1"} sampleOrderly (by decide)

-- A stream that has found its node attaches after the node is gone.
def sampleLateStream : List RelayLabel :=
  [.callStream sampleAgent, .stepStream 0, .callDeregister "n1", .stepDeregister 0, .stepDeregister 0, .stepDeregister 0,
    .stepStream 0]

-- A dispatch that has cloned the sender sends after the node is gone.
def sampleLateDispatch : List RelayLabel :=
  [.callStream sampleAgent, .stepStream 0, .stepStream 0, .callDispatch "n1" sampleUnmount, .stepDispatch 0, .stepDispatch 0,
    .callDeregister "n1", .stepDeregister 0, .stepDeregister 0, .stepDeregister 0]

theorem removed_node_reached :
    (∃ relay : Relay, runFrom relayStep (Relay.boot {"n1"}) sampleLateStream = some relay ∧ "n1" ∈ relay.fenced ∧
      Quiet relay "n1" ∧ relay.channels["n1"]? = some 0 ∧ ¬ FencedClear relay) ∧
    ∃ relay : Relay, runFrom relayStep (Relay.boot {"n1"}) sampleLateDispatch = some relay ∧ "n1" ∈ relay.fenced ∧
      ¬ RefusesFenced relay (.stepDispatch 0) := by
  constructor
  · refine ⟨_, rfl, by decide, ?quiet, rfl, fun clear => ?_⟩
    case quiet => exact ⟨by decide, by decide, by decide⟩
    have absent := clear "n1" (by decide) ⟨by decide, by decide, by decide⟩
    cases absent
  · refine ⟨_, rfl, by decide, fun refuses => ?_⟩
    have unchanged := refuses _ rfl 0 0 ⟨"n1", sampleUnmount, .accepted 0⟩ rfl rfl (by decide)
    cases unchanged

end Hpc.Plane
