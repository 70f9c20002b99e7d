import Mathlib.Data.List.Perm.Basic
import Hpc.Plane.Drain

set_option autoImplicit false

namespace Hpc.Plane

open Hpc.Core Hpc.Wire Hpc.Daemon Hpc.Agent Hpc.Lib

def Unblocks (index : Nat) : RelayLabel → Prop
  | .stepDispatch query => query = index
  | .stream _ step => step = .recv ∨ step = .transmit ∨ step = .closed ∨ step = .forwardFails ∨ ∃ now, step = .forward now
  | .detach _ => True
  | _ => False

def Accepted (index sid : Nat) (dispatch : Dispatch) (relay : Relay) : Prop :=
  relay.dispatches[index]? = some { dispatch with phase := .accepted sid }

def Refused (index : Nat) (dispatch : Dispatch) (relay : Relay) : Prop :=
  ∃ e, relay.dispatches[index]? = some { dispatch with phase := .refused e }

structure Waits (relay : Relay) (index sid : Nat) (dispatch : Dispatch) (s : CommandStream) : Prop where
  here : relay.dispatches[index]? = some dispatch
  phase : dispatch.phase = .sending sid
  present : relay.streams[sid]? = some s

theorem dispatch_slot (relay : Relay) (index : Nat) (dispatch : Dispatch) (after : DispatchPhase)
    (here : relay.dispatches[index]? = some dispatch) :
    (relay.dispatches.set index { dispatch with phase := after })[index]? = some { dispatch with phase := after } :=
  (slot_set relay.dispatches index index dispatch _ here).trans (if_pos rfl)

theorem room_accepted (relay : Relay) (index sid : Nat) (dispatch : Dispatch) (s : CommandStream)
    (waits : Waits relay index sid dispatch s) (live : s.commands.closed = false) (room : s.commands.queue.length < 64) :
    Within relayStep (Unblocks index) (Accepted index sid dispatch) 1 relay := by
  obtain ⟨commands, pushed⟩ := Mailbox.push_room s.commands ⟨index, dispatch.command⟩ live room
  apply within_step relayStep (Unblocks index) _ 0 relay { relay.setDispatch index dispatch (.accepted sid) with
    streams := relay.streams.set sid { s with commands := commands } } (.stepDispatch index) rfl
  · simp [relayStep, Relay.advanceDispatch, waits.here, waits.phase, waits.present, live, pushed]
  · exact within_now _ _ _ _ _ (dispatch_slot relay index dispatch _ waits.here)

theorem closed_refused (relay : Relay) (index sid : Nat) (dispatch : Dispatch) (s : CommandStream)
    (waits : Waits relay index sid dispatch s) (closed : s.commands.closed = true) :
    Within relayStep (Unblocks index) (Refused index dispatch) 1 relay := by
  apply within_step relayStep (Unblocks index) _ 0 relay (relay.setDispatch index dispatch
    (.refused (.invalidState ("command channel for " ++ dispatch.node ++ " closed")))) (.stepDispatch index) rfl
  · simp [relayStep, Relay.advanceDispatch, waits.here, waits.phase, waits.present, closed]
  · exact within_now _ _ _ _ _ ⟨_, dispatch_slot relay index dispatch _ waits.here⟩

theorem stream_first (relay : Relay) (index sid bound : Nat) (dispatch : Dispatch) (s t : CommandStream) (step : StreamLabel)
    (goal : Relay → Prop) (waits : Waits relay index sid dispatch s) (allowed : Unblocks index (.stream sid step))
    (stepped : streamStep (relay.sendersGone sid) s step = some t)
    (later : ∀ next, Waits next index sid dispatch t → Within relayStep (Unblocks index) goal bound next) :
    Within relayStep (Unblocks index) goal (bound + 1) relay := by
  apply within_step relayStep (Unblocks index) goal bound relay
    { relay.setStream sid t with outcomes := relay.recordReport s step } (.stream sid step) allowed
  · simp [relayStep, waits.present, stepped]
  · exact later _ ⟨waits.here, waits.phase, (slot_set relay.streams sid sid s t waits.present).trans (if_pos rfl)⟩

theorem detaching_refused (relay : Relay) (index sid : Nat) (dispatch : Dispatch) (s : CommandStream)
    (waits : Waits relay index sid dispatch s) (ending : s.bridge = .detaching) :
    Within relayStep (Unblocks index) (Refused index dispatch) 2 relay := by
  apply within_step relayStep (Unblocks index) _ 1 relay (relay.detachStream sid s) (.detach sid) trivial
  · simp [relayStep, waits.present, ending]
  · have there := slot_set relay.streams sid sid s { s with bridge := .finished, commands := s.commands.drop } waits.present
    exact closed_refused _ index sid dispatch _ ⟨waits.here, waits.phase, there.trans (if_pos rfl)⟩ rfl

theorem selecting_accepted (relay : Relay) (index sid : Nat) (dispatch : Dispatch) (s : CommandStream)
    (waits : Waits relay index sid dispatch s) (idle : s.bridge = .selecting) (live : s.commands.closed = false) :
    Within relayStep (Unblocks index) (Accepted index sid dispatch) 2 relay := by
  by_cases room : s.commands.queue.length < 64
  · exact within_mono _ _ _ _ _ _ relay (by omega) (fun _ => id) (room_accepted relay index sid dispatch s waits live room)
  · cases queued : s.commands.queue with
    | nil => simp [queued] at room
    | cons delivery rest =>
        obtain ⟨commands, popped, shorter⟩ := Mailbox.pop_ready s.commands delivery rest queued
        have fits := s.commands.fits
        rw [queued, List.length_cons] at fits
        obtain ⟨_, _, _, still, _⟩ := Mailbox.pop_spec _ _ _ popped
        apply stream_first relay index sid 1 dispatch s { s with commands := commands, bridge := .sending delivery } .recv
          _ waits (Or.inl rfl)
        · simp only [streamStep, idle, popped, Option.map_some]
        · intro next there
          exact room_accepted next index sid dispatch _ there (still.trans live) (by rw [shorter]; omega)

theorem forwarding_accepted (relay : Relay) (index sid : Nat) (dispatch : Dispatch) (s : CommandStream) (delivery : Delivery)
    (waits : Waits relay index sid dispatch s) (held : s.bridge = .sending delivery) (live : s.commands.closed = false)
    (client : s.out.closed = false) (room : s.out.queue.length < 64) :
    Within relayStep (Unblocks index) (Accepted index sid dispatch) 3 relay := by
  obtain ⟨out, pushed⟩ := Mailbox.push_room s.out ⟨delivery.call, toPbCommand 0 delivery.command⟩ client room
  apply stream_first relay index sid 2 dispatch s { s with out := out, bridge := .selecting } (.forward 0) _ waits
    (Or.inr (Or.inr (Or.inr (Or.inr ⟨0, rfl⟩))))
  · simp only [streamStep, held, pushed, Option.map_some]
  · exact fun next there => selecting_accepted next index sid dispatch _ there rfl live

theorem sending_accepted (relay : Relay) (index sid : Nat) (dispatch : Dispatch) (s : CommandStream) (delivery : Delivery)
    (waits : Waits relay index sid dispatch s) (held : s.bridge = .sending delivery) (live : s.commands.closed = false)
    (client : s.out.closed = false) : Within relayStep (Unblocks index) (Accepted index sid dispatch) 4 relay := by
  by_cases room : s.out.queue.length < 64
  · exact within_mono _ _ _ _ _ _ relay (by omega) (fun _ => id)
      (forwarding_accepted relay index sid dispatch s delivery waits held live client room)
  · cases waiting : s.out.queue with
    | nil => simp [waiting] at room
    | cons frame rest =>
        obtain ⟨out, popped, shorter⟩ := Mailbox.pop_ready s.out frame rest waiting
        have fits := s.out.fits
        rw [waiting, List.length_cons] at fits
        obtain ⟨_, _, _, still, _⟩ := Mailbox.pop_spec _ _ _ popped
        apply stream_first relay index sid 3 dispatch s { s with out := out, wire := s.wire ++ [frame] } .transmit _ waits
          (Or.inr (Or.inl rfl))
        · simp only [streamStep, popped, Option.map_some]
        · intro next there
          exact forwarding_accepted next index sid dispatch _ delivery there held live (still.trans client)
            (by rw [shorter]; omega)

-- The client is there, so the bridge still serves the channel: a stopped one would have no sender left.
theorem waiting_accepted (relay : Relay) (flowing : Flowing relay) (index sid : Nat) (dispatch : Dispatch) (s : CommandStream)
    (waits : Waits relay index sid dispatch s) (client : s.out.closed = false) :
    Within relayStep (Unblocks index) (Accepted index sid dispatch) 4 relay := by
  have intact := (flowing.intact sid s waits.present).resolve_left (by simp [client])
  have serving : s.bridge.ended ≠ true := fun ended =>
    (intact.2 ended).1.2 dispatch (List.mem_of_getElem? waits.here) waits.phase
  have stopped := (flowing.settled sid s waits.present).stopped
  have live : s.commands.closed = false := by
    cases closed : s.commands.closed with
    | false => rfl
    | true =>
        have ended : s.bridge.ended = true := by rw [stopped.mpr closed]; rfl
        exact absurd ended serving
  cases phase : s.bridge with
  | selecting =>
      exact within_mono _ _ _ _ _ _ relay (by omega) (fun _ => id)
        (selecting_accepted relay index sid dispatch s waits phase live)
  | sending delivery => exact sending_accepted relay index sid dispatch s delivery waits phase live client
  | detaching => exact absurd (by rw [phase]; rfl) serving
  | finished => exact absurd (by rw [phase]; rfl) serving

theorem waiting_refused (relay : Relay) (flowing : Flowing relay) (index sid : Nat) (dispatch : Dispatch) (s : CommandStream)
    (waits : Waits relay index sid dispatch s) (hungUp : s.out.closed = true) :
    Within relayStep (Unblocks index) (Refused index dispatch) 3 relay := by
  cases phase : s.bridge with
  | selecting =>
      apply stream_first relay index sid 2 dispatch s { s with bridge := .detaching } .closed _ waits
        (Or.inr (Or.inr (Or.inl rfl)))
      · simp only [streamStep, phase, hungUp, and_self, if_true]
      · exact fun next there => detaching_refused next index sid dispatch _ there rfl
  | sending delivery =>
      apply stream_first relay index sid 2 dispatch s { s with bridge := .detaching } .forwardFails _ waits
        (Or.inr (Or.inr (Or.inr (Or.inl rfl))))
      · simp only [streamStep, phase, hungUp, if_true]
      · exact fun next there => detaching_refused next index sid dispatch _ there rfl
  | detaching =>
      exact within_mono _ _ _ _ _ _ relay (by omega) (fun _ => id) (detaching_refused relay index sid dispatch s waits phase)
  | finished =>
      have closed := (flowing.settled sid s waits.present).stopped.mp phase
      exact within_mono _ _ _ _ _ _ relay (by omega) (fun _ => id) (closed_refused relay index sid dispatch s waits closed)

def Concluded (index : Nat) (relay : Relay) : Prop :=
  ∃ dispatch, relay.dispatches[index]? = some dispatch ∧
    ((∃ sid, dispatch.phase = .accepted sid) ∨ ∃ e, dispatch.phase = .refused e)

theorem accepted_concluded (index sid : Nat) (dispatch : Dispatch) (relay : Relay)
    (accepted : Accepted index sid dispatch relay) : Concluded index relay :=
  ⟨_, accepted, Or.inl ⟨sid, rfl⟩⟩

theorem refused_concluded (index : Nat) (dispatch : Dispatch) (relay : Relay) (refused : Refused index dispatch relay) :
    Concluded index relay := by
  obtain ⟨e, found⟩ := refused
  exact ⟨_, found, Or.inr ⟨e, rfl⟩⟩

theorem sending_concludes (relay : Relay) (flowing : Flowing relay) (index sid : Nat) (dispatch : Dispatch)
    (here : relay.dispatches[index]? = some dispatch) (phase : dispatch.phase = .sending sid) :
    Within relayStep (Unblocks index) (Concluded index) 4 relay := by
  obtain ⟨s, present, _⟩ := flowing.posted.addressed index dispatch here sid (Or.inl phase)
  have waits : Waits relay index sid dispatch s := ⟨here, phase, present⟩
  cases client : s.out.closed with
  | false =>
      have near := waiting_accepted relay flowing index sid dispatch s waits client
      exact within_mono _ _ _ _ _ _ relay (Nat.le_refl _) (accepted_concluded index sid dispatch) near
  | true =>
      have near := waiting_refused relay flowing index sid dispatch s waits client
      exact within_mono _ _ _ _ _ _ relay (by omega) (refused_concluded index dispatch) near

theorem clone_concludes (relay : Relay) (flowing : Flowing relay) (index : Nat) (dispatch : Dispatch)
    (here : relay.dispatches[index]? = some dispatch) (phase : dispatch.phase = .clone) :
    Within relayStep (Unblocks index) (Concluded index) 5 relay := by
  have taken : relayStep relay (.stepDispatch index) =
      some (relay.setDispatch index dispatch (relay.cloneSender dispatch.node)) := by
    simp [relayStep, here, Relay.advanceDispatch, phase]
  have there := dispatch_slot relay index dispatch (relay.cloneSender dispatch.node) here
  apply within_step relayStep (Unblocks index) _ 4 relay _ (.stepDispatch index) rfl taken
  rcases cloned_phase relay dispatch.node with ⟨sid, _, sending⟩ | ⟨e, absent⟩
  · exact sending_concludes _ (flowing_step relay _ _ flowing taken) index sid _ there sending
  · exact within_now _ _ _ _ _ ⟨_, there, Or.inr ⟨e, absent⟩⟩

theorem lookup_concludes (relay : Relay) (flowing : Flowing relay) (index : Nat) (dispatch : Dispatch)
    (here : relay.dispatches[index]? = some dispatch) (phase : dispatch.phase = .lookup) :
    Within relayStep (Unblocks index) (Concluded index) 6 relay := by
  have taken : relayStep relay (.stepDispatch index) =
      some (relay.setDispatch index dispatch (relay.lookupNode dispatch.node)) := by
    simp [relayStep, here, Relay.advanceDispatch, phase]
  have there := dispatch_slot relay index dispatch (relay.lookupNode dispatch.node) here
  apply within_step relayStep (Unblocks index) _ 5 relay _ (.stepDispatch index) rfl taken
  rcases looked_up_phase relay dispatch.node with ⟨_, known⟩ | ⟨e, unknown⟩
  · exact clone_concludes _ (flowing_step relay _ _ flowing taken) index _ there known
  · exact within_now _ _ _ _ _ ⟨_, there, Or.inr ⟨e, unknown⟩⟩

-- No call is stuck for good. Whatever the full channels it waits for, from every state that can be reached it can end in six
-- steps of itself, the bridge tasks and the transport. While the client of its stream is there it ends by being accepted.
theorem dispatch_concludes (nodes : Finset NodeId) (labels : List RelayLabel) (relay : Relay)
    (ran : runFrom relayStep (Relay.boot nodes) labels = some relay) (index : Nat) (dispatch : Dispatch)
    (here : relay.dispatches[index]? = some dispatch) :
    Within relayStep (Unblocks index) (Concluded index) 6 relay ∧
      ∀ sid : Nat, dispatch.phase = .sending sid → ∃ s : CommandStream, relay.streams[sid]? = some s ∧
        (s.out.closed = false → Within relayStep (Unblocks index) (Accepted index sid dispatch) 4 relay) ∧
        (s.out.closed = true → Within relayStep (Unblocks index) (Refused index dispatch) 3 relay) := by
  have flowing := flowing_run nodes labels relay ran
  refine ⟨?_, fun sid phase => ?_⟩
  · cases phase : dispatch.phase with
    | lookup => exact lookup_concludes relay flowing index dispatch here phase
    | clone =>
        have near := clone_concludes relay flowing index dispatch here phase
        exact within_mono _ _ _ _ _ _ relay (by omega) (fun _ => id) near
    | sending sid =>
        have near := sending_concludes relay flowing index sid dispatch here phase
        exact within_mono _ _ _ _ _ _ relay (by omega) (fun _ => id) near
    | accepted sid => exact within_now _ _ _ _ _ ⟨dispatch, here, Or.inl ⟨sid, phase⟩⟩
    | refused e => exact within_now _ _ _ _ _ ⟨dispatch, here, Or.inr ⟨e, phase⟩⟩
  · obtain ⟨s, present, _⟩ := flowing.posted.addressed index dispatch here sid (Or.inl phase)
    have waits : Waits relay index sid dispatch s := ⟨here, phase, present⟩
    exact ⟨s, present, waiting_accepted relay flowing index sid dispatch s waits,
      waiting_refused relay flowing index sid dispatch s waits⟩

theorem pushed_count (relay : Relay) (posted : Posted relay) (sid : Nat) (s : CommandStream)
    (present : relay.streams[sid]? = some s) :
    s.commands.pushed.length = relay.dispatches.countP fun dispatch => decide (dispatch.phase = .accepted sid) := by
  have same : (s.commands.pushed.map Delivery.call).Perm
      (relay.dispatches.findIdxs fun dispatch => decide (dispatch.phase = .accepted sid)) := by
    apply (List.perm_ext_iff_of_nodup (posted.distinct sid s present) List.nodup_findIdxs).mpr
    intro call
    rw [List.mem_map, List.mem_findIdxs_iff_exists_getElem_pos]
    apply Iff.intro
    · rintro ⟨delivery, entered, rfl⟩
      have found := (posted.entered sid s present delivery).mp entered
      obtain ⟨bound, same⟩ := List.getElem?_eq_some_iff.mp found
      exact ⟨bound, by rw [same]; simp⟩
    · rintro ⟨bound, accepted⟩
      have found : relay.dispatches[call]? = some relay.dispatches[call] := List.getElem?_eq_getElem bound
      have phase : relay.dispatches[call].phase = .accepted sid := by simpa using accepted
      obtain ⟨t, here, node⟩ := posted.addressed call _ found sid (Or.inr phase)
      cases present.symm.trans here
      refine ⟨⟨call, relay.dispatches[call].command⟩, (posted.entered sid s present _).mpr ?_, rfl⟩
      rw [found, node, ← phase]
  rw [← List.length_findIdxs, ← same.length_eq, List.length_map]

-- Back-pressure: the daemon itself never holds more of the commands it has accepted than its two channels and the bridge
-- have places for. The rest has been handed to the transport.
theorem accepted_bound (nodes : Finset NodeId) (labels : List RelayLabel) (relay : Relay)
    (ran : runFrom relayStep (Relay.boot nodes) labels = some relay) (sid : Nat) (s : CommandStream)
    (present : relay.streams[sid]? = some s) (client : s.out.closed = false) :
    relay.dispatches.countP (fun dispatch => decide (dispatch.phase = .accepted sid)) ≤
      s.executed.length + s.wire.length + (64 + 1 + 64) := by
  have flowing := flowing_run nodes labels relay ran
  have piped := flowing.posted.piped sid s present
  have intact := (flowing.intact sid s present).resolve_left (by simp [client])
  obtain ⟨front, held, taken, carried, kept⟩ := piped.forwarded
  have one : held.length ≤ 1 := by
    cases phase : s.bridge with
    | sending delivery =>
        have only : held = [delivery] := by simpa [Held, phase] using kept
        rw [only, List.length_singleton]
    | _ =>
        have none : held = [] := by simpa [Held, phase, client] using kept
        rw [none]
        exact Nat.zero_le _
  have entered : s.commands.pushed.length = front.length + held.length + s.commands.queue.length := by
    rw [Mailbox.pushed, intact.1, taken, List.append_nil, List.length_append, List.length_append]
  have sent : front.length = s.executed.length + s.wire.length + s.out.queue.length := by
    rw [carried.length_eq, Mailbox.pushed, s.out.kept client, List.append_nil, List.length_append, piped.handed,
      List.length_append, List.length_map]
  have queued := s.commands.fits
  have waiting := s.out.fits
  rw [← pushed_count relay flowing.posted sid s present]
  omega

theorem unmount_concludes : ∃ relay : Relay,
    runFrom relayStep (Relay.boot {"n1"}) (sampleAccepted.take 6) = some relay ∧
      relay.dispatches.map Dispatch.phase = [.sending 0] ∧ Within relayStep (Unblocks 0) (Concluded 0) 6 relay :=
  ⟨_, rfl, rfl, (dispatch_concludes {"n1"} (sampleAccepted.take 6) _ rfl 0 _ rfl).1⟩

theorem unmount_bound : ∃ (relay : Relay) (s : CommandStream),
    runFrom relayStep (Relay.boot {"n1"}) sampleAccepted = some relay ∧ relay.streams[0]? = some s ∧
      relay.dispatches.countP (fun dispatch => decide (dispatch.phase = .accepted 0)) ≤
        s.executed.length + s.wire.length + (64 + 1 + 64) :=
  ⟨_, _, rfl, rfl, accepted_bound {"n1"} sampleAccepted _ rfl 0 _ rfl rfl⟩

end Hpc.Plane
