import Hpc.Lib.Sequencing
import Hpc.Plane.Registry

set_option autoImplicit false

namespace Hpc.Plane

open Hpc.Core Hpc.Wire Hpc.Daemon Hpc.Agent Hpc.Lib

def Addressed (streams : List CommandStream) (dispatch : Dispatch) : Prop :=
  ∀ sid : Nat, dispatch.phase = .sending sid ∨ dispatch.phase = .accepted sid →
    ∃ s : CommandStream, streams[sid]? = some s ∧ s.node = dispatch.node

def Entered (dispatches : List Dispatch) (sid : Nat) (s : CommandStream) : Prop :=
  ∀ delivery : Delivery, delivery ∈ s.commands.pushed ↔
    dispatches[delivery.call]? = some ⟨s.node, delivery.command, .accepted sid⟩

def Distinct (s : CommandStream) : Prop := (s.commands.pushed.map Delivery.call).Nodup

def OpenedBy (openings : List Opening) (sid : Nat) (s : CommandStream) : Prop :=
  ∃ index : Nat, openings[index]? = some ⟨s.executor, .opened sid⟩

structure Posted (relay : Relay) : Prop where
  registered : Registered relay
  addressed : EverySlot (fun _ => Addressed relay.streams) relay.dispatches
  entered : EverySlot (Entered relay.dispatches) relay.streams
  distinct : EverySlot (fun _ => Distinct) relay.streams
  piped : EverySlot (fun _ => Piped) relay.streams
  opener : EverySlot (OpenedBy relay.openings) relay.streams

theorem addressed_follows (streams next : List CommandStream) (follows : Follows streams next) (dispatch : Dispatch)
    (before : Addressed streams dispatch) : Addressed next dispatch := by
  intro sid reached
  obtain ⟨s, present, node⟩ := before sid reached
  obtain ⟨t, kept, same⟩ := follows.forth sid s present
  exact ⟨t, kept, same.trans node⟩

theorem entered_set (dispatches : List Dispatch) (index sid : Nat) (old new : Dispatch) (s : CommandStream)
    (here : dispatches[index]? = some old) (before : old.phase ≠ .accepted sid) (after : new.phase ≠ .accepted sid)
    (entered : Entered dispatches sid s) : Entered (dispatches.set index new) sid s := by
  intro delivery
  rw [entered delivery, slot_set dispatches index delivery.call old new here]
  by_cases same : index = delivery.call
  · rw [if_pos same, ← same, here]
    apply Iff.intro
    · intro found
      cases found
      exact absurd rfl before
    · intro found
      cases found
      exact absurd rfl after
  · rw [if_neg same]

theorem entered_sent (dispatches : List Dispatch) (index sid : Nat) (dispatch : Dispatch) (s : CommandStream)
    (commands : Mailbox Delivery 64) (here : dispatches[index]? = some dispatch) (unsent : dispatch.phase ≠ .accepted sid)
    (node : s.node = dispatch.node) (grown : commands.pushed = s.commands.pushed ++ [⟨index, dispatch.command⟩])
    (entered : Entered dispatches sid s) :
    Entered (dispatches.set index { dispatch with phase := .accepted sid }) sid { s with commands := commands } := by
  intro delivery
  change delivery ∈ commands.pushed ↔ (dispatches.set index _)[delivery.call]? = _
  rw [grown, List.mem_append, List.mem_singleton, entered delivery, slot_set dispatches index delivery.call dispatch _ here]
  by_cases this : index = delivery.call
  · rw [if_pos this, ← this, here]
    apply Iff.intro
    · intro either
      rcases either with earlier | now
      · exact absurd (congrArg Dispatch.phase (Option.some.inj earlier)) unsent
      · rw [now]
        exact congrArg (fun node => some (Dispatch.mk node dispatch.command (.accepted sid))) node.symm
    · intro sent
      have command : dispatch.command = delivery.command := congrArg Dispatch.command (Option.some.inj sent)
      apply Or.inr
      rw [this, command]
  · rw [if_neg this]
    refine ⟨fun either => ?_, Or.inl⟩
    rcases either with earlier | now
    · exact earlier
    · exact absurd (congrArg Delivery.call now).symm this

theorem entered_push (dispatches : List Dispatch) (sid : Nat) (new : Dispatch) (s : CommandStream)
    (fresh : new.phase ≠ .accepted sid) (entered : Entered dispatches sid s) : Entered (dispatches ++ [new]) sid s := by
  intro delivery
  rw [entered delivery, slot_push]
  by_cases last : dispatches.length = delivery.call
  · rw [if_pos last, ← last, List.getElem?_eq_none (Nat.le_refl _)]
    apply Iff.intro
    · intro found
      cases found
    · intro found
      cases found
      exact absurd rfl fresh
  · rw [if_neg last]

theorem posted_dispatches (relay next : Relay) (posted : Posted relay) (registered : Registered next)
    (streams : next.streams = relay.streams) (openings : next.openings = relay.openings)
    (addressed : EverySlot (fun _ => Addressed relay.streams) next.dispatches)
    (entered : ∀ (sid : Nat) (s : CommandStream), Entered relay.dispatches sid s → Entered next.dispatches sid s) :
    Posted next := by
  refine ⟨registered, ?_, ?_, ?_, ?_, ?_⟩
  · rw [streams]
    exact addressed
  · rw [streams]
    exact every_slot_mono _ _ _ entered posted.entered
  · rw [streams]
    exact posted.distinct
  · rw [streams]
    exact posted.piped
  · rw [streams, openings]
    exact posted.opener

theorem posted_phase (relay : Relay) (index : Nat) (dispatch : Dispatch) (phase : DispatchPhase) (posted : Posted relay)
    (registered : Registered (relay.setDispatch index dispatch phase)) (here : relay.dispatches[index]? = some dispatch)
    (before : ∀ sid, dispatch.phase ≠ .accepted sid) (after : ∀ sid, phase ≠ .accepted sid)
    (found : ∀ sid, phase = .sending sid → ∃ s : CommandStream, relay.streams[sid]? = some s ∧ s.node = dispatch.node) :
    Posted (relay.setDispatch index dispatch phase) := by
  refine posted_dispatches relay _ posted registered rfl rfl ?_ fun sid s entered => ?_
  · apply every_slot_set _ relay.dispatches index dispatch _ here posted.addressed
    intro sid reached
    rcases reached with sending | accepted
    · exact found sid sending
    · exact absurd accepted (after sid)
  · exact entered_set relay.dispatches index sid dispatch _ s here (before sid) (after sid) entered

theorem posted_sent (relay : Relay) (index sid : Nat) (dispatch : Dispatch) (s : CommandStream) (commands : Mailbox Delivery 64)
    (posted : Posted relay) (here : relay.dispatches[index]? = some dispatch) (phase : dispatch.phase = .sending sid)
    (present : relay.streams[sid]? = some s) (pushed : s.commands.push ⟨index, dispatch.command⟩ = some commands)
    (registered : Registered { relay.setDispatch index dispatch (.accepted sid) with
      streams := relay.streams.set sid { s with commands := commands } }) :
    Posted { relay.setDispatch index dispatch (.accepted sid) with
      streams := relay.streams.set sid { s with commands := commands } } := by
  obtain ⟨_, _, taken, _, _, _, grown⟩ := Mailbox.push_spec _ _ _ pushed
  have follows : Follows relay.streams (relay.streams.set sid { s with commands := commands }) :=
    follows_set relay.streams sid s _ present rfl id
  have unsent : ∀ later, dispatch.phase ≠ .accepted later := fun later accepted => nomatch phase.symm.trans accepted
  have node : s.node = dispatch.node := by
    obtain ⟨t, found, same⟩ := posted.addressed index dispatch here sid (Or.inl phase)
    cases present.symm.trans found
    exact same
  refine ⟨registered, ?addressed, ?entered, ?distinct, ?piped, ?opener⟩
  case addressed =>
    refine every_slot_set _ relay.dispatches index dispatch _ here ?_ fun query reached => ?_
    · exact fun query old found => addressed_follows _ _ follows old (posted.addressed query old found)
    · rcases reached with sending | accepted
      · cases sending
      · cases accepted
        exact ⟨_, (slot_set relay.streams sid sid s _ present).trans (if_pos rfl), node⟩
  case entered =>
    intro query t found
    change (relay.streams.set sid { s with commands := commands })[query]? = some t at found
    rw [slot_set relay.streams sid query s _ present] at found
    by_cases same : sid = query
    · rw [if_pos same] at found
      cases found
      cases same
      exact entered_sent relay.dispatches index sid dispatch s commands here (unsent sid) node grown
        (posted.entered sid s present)
    · rw [if_neg same] at found
      refine entered_set relay.dispatches index query dispatch _ t here (unsent query) ?_ (posted.entered query t found)
      exact fun accepted => same (DispatchPhase.accepted.inj accepted)
  case distinct =>
    apply every_slot_set _ relay.streams sid s _ present posted.distinct
    change (commands.pushed.map Delivery.call).Nodup
    rw [grown, List.map_append]
    refine List.nodup_append.mpr ⟨posted.distinct sid s present, List.nodup_singleton _, ?_⟩
    intro call earlier other now same
    obtain ⟨delivery, member, rfl⟩ := List.mem_map.mp earlier
    have found := (posted.entered sid s present delivery).mp member
    rw [same, List.mem_singleton.mp now, here] at found
    exact unsent sid (congrArg Dispatch.phase (Option.some.inj found))
  case piped =>
    apply every_slot_set _ relay.streams sid s _ present posted.piped
    have piped := posted.piped sid s present
    obtain ⟨front, held, received, carried, kept⟩ := piped.forwarded
    exact ⟨⟨front, held, taken.trans received, carried, kept⟩, piped.handed, piped.performed, piped.pending, piped.reports⟩
  case opener => exact every_slot_set _ relay.streams sid s _ present posted.opener (posted.opener sid s present)

theorem posted_attach (relay : Relay) (index : Nat) (opening : Opening) (posted : Posted relay)
    (here : relay.openings[index]? = some opening) (phase : opening.phase = .attach) :
    Posted (relay.attachChannel index opening) := by
  have beyond : relay.streams[relay.streams.length]? = none := List.getElem?_eq_none (Nat.le_refl _)
  refine ⟨registered_attach relay index opening posted.registered, ?addressed, ?entered, ?distinct, ?piped, ?opener⟩
  case addressed =>
    intro query dispatch found sid reached
    obtain ⟨s, present, node⟩ := posted.addressed query dispatch found sid reached
    have old : relay.streams.length ≠ sid := Nat.ne_of_gt (slot_bound _ _ _ present)
    exact ⟨s, (slot_push relay.streams sid _).trans ((if_neg old).trans present), node⟩
  case entered =>
    apply every_slot_push _ relay.streams _ posted.entered
    intro delivery
    refine ⟨(fun none => nomatch none), fun found => ?_⟩
    obtain ⟨s, present, _⟩ := posted.addressed delivery.call _ found relay.streams.length (Or.inr rfl)
    cases beyond.symm.trans present
  case distinct => exact every_slot_push _ relay.streams _ posted.distinct List.nodup_nil
  case piped => exact every_slot_push _ relay.streams _ posted.piped (piped_opened opening.executor)
  case opener =>
    have opened := slot_set relay.openings index index opening ⟨opening.executor, .opened relay.streams.length⟩ here
    rw [if_pos rfl] at opened
    refine every_slot_push _ relay.streams _ (fun sid s present => ?_) ⟨index, opened⟩
    obtain ⟨query, found⟩ := posted.opener sid s present
    refine ⟨query, (slot_set relay.openings index query opening _ here).trans ?_⟩
    rw [if_neg, found]
    intro same
    cases here.symm.trans (same ▸ found)
    cases phase

theorem opener_set (relay : Relay) (index : Nat) (opening : Opening) (next : OpeningPhase) (posted : Posted relay)
    (here : relay.openings[index]? = some opening) (phase : opening.phase = .lookup) :
    EverySlot (OpenedBy (relay.setOpening index opening next).openings) relay.streams := by
  intro sid s present
  obtain ⟨query, found⟩ := posted.opener sid s present
  refine ⟨query, (slot_set relay.openings index query opening _ here).trans ?_⟩
  rw [if_neg, found]
  intro same
  cases here.symm.trans (same ▸ found)
  cases phase

theorem posted_stream (relay next : Relay) (sid : Nat) (s after : CommandStream) (posted : Posted relay)
    (registered : Registered next) (present : relay.streams[sid]? = some s)
    (streams : next.streams = relay.streams.set sid after) (dispatches : next.dispatches = relay.dispatches)
    (openings : next.openings = relay.openings) (executor : after.executor = s.executor)
    (pushed : after.commands.pushed = s.commands.pushed) (hungUp : s.out.closed = true → after.out.closed = true)
    (piped : Piped after) : Posted next := by
  have node : after.node = s.node := congrArg Executor.nodeId executor
  have follows : Follows relay.streams (relay.streams.set sid after) := follows_set relay.streams sid s after present node hungUp
  refine ⟨registered, ?addressed, ?entered, ?distinct, ?piped, ?opener⟩
  case addressed =>
    rw [dispatches, streams]
    exact fun query old found => addressed_follows _ _ follows old (posted.addressed query old found)
  case entered =>
    rw [dispatches, streams]
    apply every_slot_set _ relay.streams sid s after present posted.entered
    intro delivery
    rw [pushed, node]
    exact posted.entered sid s present delivery
  case distinct =>
    rw [streams]
    apply every_slot_set _ relay.streams sid s after present posted.distinct
    rw [Distinct, pushed]
    exact posted.distinct sid s present
  case piped =>
    rw [streams]
    exact every_slot_set _ relay.streams sid s after present posted.piped piped
  case opener =>
    rw [openings, streams]
    apply every_slot_set _ relay.streams sid s after present posted.opener
    rw [OpenedBy, executor]
    exact posted.opener sid s present

theorem piped_detached (s : CommandStream) (piped : Piped s) (ending : s.bridge = .detaching) :
    Piped { s with bridge := .finished, commands := s.commands.drop } := by
  obtain ⟨front, held, received, carried, kept⟩ := piped.forwarded
  have spent : held = [] ∨ s.out.closed = true := by simpa [Held, ending] using kept
  exact ⟨⟨front, held, received, carried, spent⟩, piped.handed, piped.performed, piped.pending, piped.reports⟩

theorem posted_step (relay next : Relay) (label : RelayLabel) (posted : Posted relay)
    (taken : relayStep relay label = some next) : Posted next := by
  have registered := registered_step relay next label posted.registered taken
  cases relay_step_moves relay next label taken with
  | callDispatch node command =>
      refine posted_dispatches relay _ posted registered rfl rfl ?_ fun sid s entered => ?_
      · apply every_slot_push _ relay.dispatches _ posted.addressed
        intro sid reached
        rcases reached with sending | accepted
        · cases sending
        · cases accepted
      · exact entered_push relay.dispatches sid _ s nofun entered
  | lookedUp index dispatch here phase =>
      have unsent : ∀ sid, dispatch.phase ≠ .accepted sid := fun sid accepted => nomatch phase.symm.trans accepted
      rcases looked_up_phase relay dispatch.node with ⟨_, clone⟩ | ⟨e, unknown⟩
      · exact posted_phase relay index dispatch _ posted registered here unsent (clone ▸ nofun) (clone ▸ nofun)
      · exact posted_phase relay index dispatch _ posted registered here unsent (unknown ▸ nofun) (unknown ▸ nofun)
  | cloned index dispatch here phase =>
      have unsent : ∀ sid, dispatch.phase ≠ .accepted sid := fun sid accepted => nomatch phase.symm.trans accepted
      rcases cloned_phase relay dispatch.node with ⟨held, found, sending⟩ | ⟨e, absent⟩
      · apply posted_phase relay index dispatch _ posted registered here unsent (sending ▸ nofun)
        intro sid same
        cases sending.symm.trans same
        exact posted.registered.entry dispatch.node held found
      · exact posted_phase relay index dispatch _ posted registered here unsent (absent ▸ nofun) (absent ▸ nofun)
  | refused index sid dispatch s e here phase present closed =>
      refine posted_phase relay index dispatch _ posted registered here ?_ nofun nofun
      exact fun sid accepted => nomatch phase.symm.trans accepted
  | sent index sid dispatch s commands here phase present pushed =>
      exact posted_sent relay index sid dispatch s commands posted here phase present pushed registered
  | attached index opening here phase => exact posted_attach relay index opening posted here phase
  | callStream executor =>
      refine ⟨registered, posted.addressed, posted.entered, posted.distinct, posted.piped, fun sid s present => ?_⟩
      obtain ⟨index, found⟩ := posted.opener sid s present
      exact ⟨index, (List.getElem?_append_left (slot_bound _ _ _ found)).trans found⟩
  | streamLookedUp index opening next here phase result =>
      exact ⟨registered, posted.addressed, posted.entered, posted.distinct, posted.piped,
        opener_set relay index opening next posted here phase⟩
  | streamed sid s after label present move =>
      have keeps := stream_keeps _ s after label move
      exact posted_stream relay _ sid s after posted registered present rfl rfl rfl keeps.executor keeps.pushed keeps.hungUp
        (piped_step _ s after label (posted.piped sid s present) move)
  | detached sid s present ending =>
      exact posted_stream relay _ sid s _ posted registered present rfl rfl rfl rfl (Mailbox.pushed_drop s.commands) id
        (piped_detached s (posted.piped sid s present) ending)
  | _ => exact ⟨registered, posted.addressed, posted.entered, posted.distinct, posted.piped, posted.opener⟩

theorem posted_boot (nodes : Finset NodeId) : Posted (Relay.boot nodes) :=
  ⟨registered_boot nodes, every_slot_nil _, every_slot_nil _, every_slot_nil _, every_slot_nil _, every_slot_nil _⟩

theorem posted_run (nodes : Finset NodeId) (labels : List RelayLabel) (relay : Relay)
    (ran : runFrom relayStep (Relay.boot nodes) labels = some relay) : Posted relay :=
  run_invariant relayStep Posted (fun relay label next posted taken => posted_step relay next label posted taken)
    (Relay.boot nodes) relay labels (posted_boot nodes) ran

theorem executed_front (s : CommandStream) (piped : Piped s) :
    ∃ front, front <+: s.commands.pushed ∧ List.Forall₂ Carries front (s.executed.map Execution.frame) := by
  obtain ⟨received, held, taken, carried, _⟩ := piped.forwarded
  refine ⟨received.take (s.executed.map Execution.frame).length, ?_, ?_⟩
  · have whole : received <+: s.commands.pushed := by
      rw [Mailbox.pushed_split, taken, List.append_assoc]
      exact List.prefix_append _ _
    exact (List.take_prefix _ _).trans whole
  · apply List.forall₂_take_append _ _ (s.wire ++ (s.out.queue ++ s.out.lost))
    rw [← List.append_assoc, ← piped.handed, ← Mailbox.pushed_split]
    exact carried

theorem executed_accepted (relay : Relay) (posted : Posted relay) (sid : Nat) (s : CommandStream)
    (present : relay.streams[sid]? = some s) (execution : Execution) (done : execution ∈ s.executed) :
    ∃ delivery : Delivery, Carries delivery execution.frame ∧
      relay.dispatches[execution.frame.call]? = some ⟨s.node, delivery.command, .accepted sid⟩ := by
  obtain ⟨front, whole, carried⟩ := executed_front s (posted.piped sid s present)
  obtain ⟨delivery, member, carries⟩ := related_mem Carries _ _ carried _ (List.mem_map_of_mem done)
  refine ⟨delivery, carries, ?_⟩
  rw [carries.1]
  exact (posted.entered sid s present delivery).mp (whole.subset member)

theorem to_pb_command_payload (now : UInt64) (cmd : NodeCommand) :
    ∃ payload, (toPbCommand now cmd).payload = some payload ∧ payloadId payload = cmd.commandId := by
  cases cmd with
  | deploy d => exact ⟨_, rfl, rfl⟩
  | fs f => exact ⟨_, rfl, rfl⟩

structure Answers (s : CommandStream) (execution : Execution) (outcome : CommandOutcome) : Prop where
  produced : execution.handled.outcome = some outcome
  envelope : outcome.commandId = execution.frame.message.commandId
  payload : ∃ payload, execution.frame.message.payload = some payload ∧ outcome.commandId = payloadId payload
  node : outcome.nodeId = s.executor.nodeId

theorem execution_answers (s : CommandStream) (piped : Piped s) (execution : Execution) (done : execution ∈ s.executed)
    (outcome : CommandOutcome) (produced : execution.handled.outcome = some outcome) : Answers s execution outcome := by
  obtain ⟨front, _, carried⟩ := executed_front s piped
  obtain ⟨delivery, _, _, sent, message⟩ := related_mem Carries _ _ carried _ (List.mem_map_of_mem done)
  obtain ⟨spawn, now, handled⟩ := piped.performed execution done
  obtain ⟨payload, holds, named⟩ := to_pb_command_payload sent delivery.command
  rw [← message] at holds
  obtain ⟨result, answered, ids, node⟩ := execute_command_outcome s.executor ⟨execution.frame.message, spawn, now⟩ payload holds
  rw [← handled, produced] at answered
  cases answered
  refine ⟨produced, ?_, ⟨payload, holds, ids⟩, node⟩
  rw [ids, named, message, to_pb_command_id]

structure DeliversInOrder (relay : Relay) (sid : Nat) (s : CommandStream) : Prop where
  accepted : ∀ delivery : Delivery, delivery ∈ s.commands.pushed ↔
    relay.dispatches[delivery.call]? = some ⟨s.node, delivery.command, .accepted sid⟩
  inOrder : ∃ front, front <+: s.commands.pushed ∧ List.Forall₂ Carries front (s.executed.map Execution.frame)
  once : (s.executed.map fun execution => execution.frame.call).Nodup
  oneStream : ∀ (other : Nat) (t : CommandStream), relay.streams[other]? = some t → other ≠ sid →
    ∀ execution ∈ s.executed, ∀ again ∈ t.executed, again.frame.call ≠ execution.frame.call
  ownAgent : ∃ index : Nat, relay.openings[index]? = some ⟨s.executor, .opened sid⟩
  performed : ∀ execution ∈ s.executed, ∃ spawn now,
    execution.handled = executeCommand s.executor ⟨execution.frame.message, spawn, now⟩
  answered : ∀ outcome, s.reporting = some outcome ∨ outcome ∈ s.reported →
    ∃ execution ∈ s.executed, Answers s execution outcome

theorem delivered_in_order (nodes : Finset NodeId) (labels : List RelayLabel) (relay : Relay)
    (ran : runFrom relayStep (Relay.boot nodes) labels = some relay) : EverySlot (DeliversInOrder relay) relay.streams := by
  have posted := posted_run nodes labels relay ran
  intro sid s present
  have piped := posted.piped sid s present
  obtain ⟨front, whole, carried⟩ := executed_front s piped
  refine ⟨posted.entered sid s present, ⟨front, whole, carried⟩, ?once, ?oneStream, posted.opener sid s present,
    piped.performed, ?answered⟩
  case once =>
    have calls : (s.executed.map Execution.frame).map Frame.call = front.map Delivery.call :=
      related_map Carries Delivery.call Frame.call (fun _ _ carries => carries.1) _ _ carried
    rw [List.map_map] at calls
    have nodup : (front.map Delivery.call).Nodup := (whole.sublist.map Delivery.call).nodup (posted.distinct sid s present)
    rw [← calls] at nodup
    exact nodup
  case oneStream =>
    intro other t found elsewhere execution done again repeated same
    obtain ⟨_, _, first⟩ := executed_accepted relay posted sid s present execution done
    obtain ⟨_, _, second⟩ := executed_accepted relay posted other t found again repeated
    rw [same, first] at second
    have phases := congrArg Dispatch.phase (Option.some.inj second)
    exact elsewhere (DispatchPhase.accepted.inj phases).symm
  case answered =>
    intro outcome either
    have source : ∃ execution ∈ s.executed, execution.handled.outcome = some outcome := by
      rcases either with waiting | sent
      · exact piped.pending outcome waiting
      · exact piped.reports outcome sent
    obtain ⟨execution, done, produced⟩ := source
    exact ⟨execution, done, execution_answers s piped execution done outcome produced⟩

def sampleUnmount : NodeCommand := .fs ⟨"c1", .unmount, "", "/mnt/data", "", [], false⟩

def unmountOf (commandId mountPoint : String) : NodeCommand := .fs ⟨commandId, .unmount, "", mountPoint, "", [], false⟩

def passOn (sid : Nat) : List RelayLabel := [.stream sid .recv, .stream sid (.forward 1000), .stream sid .transmit]

def carryOut (sid : Nat) : List RelayLabel :=
  [.stream sid (.execute (fun _ => .exited (some 0) "" "") 1001), .stream sid .report]

-- The agent comes back on a second stream while a dispatch holds a sender of the first, and the second is drained first.
def reconnectedDelivery : List RelayLabel :=
  [.callStream sampleAgent, .stepStream 0, .stepStream 0, .callDispatch "n1" (unmountOf "c1" "/mnt/a"), .stepDispatch 0,
    .stepDispatch 0, .stepDispatch 0, .callDispatch "n1" (unmountOf "c2" "/mnt/b"), .stepDispatch 1, .stepDispatch 1,
    .callStream sampleAgent, .stepStream 1, .stepStream 1, .callDispatch "n1" (unmountOf "c3" "/mnt/c"), .stepDispatch 2,
    .stepDispatch 2, .stepDispatch 2, .stepDispatch 1] ++
  passOn 1 ++ carryOut 1 ++ passOn 0 ++ passOn 0 ++ carryOut 0 ++ carryOut 0

theorem reconnected_delivered : ∃ relay : Relay, runFrom relayStep (Relay.boot {"n1"}) reconnectedDelivery = some relay ∧
    relay.streams.map (fun s => s.reported.map CommandOutcome.commandId) = [["c1", "c2"], ["c3"]] ∧
    EverySlot (DeliversInOrder relay) relay.streams :=
  ⟨_, rfl, rfl, delivered_in_order {"n1"} reconnectedDelivery _ rfl⟩

end Hpc.Plane
