import Hpc.Plane.Model

set_option autoImplicit false

namespace Hpc.Plane

open Hpc.Core Hpc.Wire Hpc.Daemon Hpc.Agent Hpc.Lib

structure Follows (streams next : List CommandStream) : Prop where
  back : ∀ (sid : Nat) (t : CommandStream), next[sid]? = some t →
    ∃ s : CommandStream, streams[sid]? = some s ∧ t.node = s.node ∧ (s.out.closed = true → t.out.closed = true)
  forth : ∀ (sid : Nat) (s : CommandStream), streams[sid]? = some s → ∃ t : CommandStream, next[sid]? = some t ∧ t.node = s.node

theorem follows_refl (streams : List CommandStream) : Follows streams streams :=
  ⟨fun _ t present => ⟨t, present, rfl, id⟩, fun _ s present => ⟨s, present, rfl⟩⟩

theorem follows_set (streams : List CommandStream) (sid : Nat) (s next : CommandStream) (present : streams[sid]? = some s)
    (node : next.node = s.node) (hungUp : s.out.closed = true → next.out.closed = true) :
    Follows streams (streams.set sid next) := by
  refine ⟨?_, ?_⟩
  · intro query t found
    rw [slot_set streams sid query s next present] at found
    by_cases same : sid = query
    · rw [if_pos same] at found
      cases found
      exact ⟨s, same ▸ present, node, hungUp⟩
    · rw [if_neg same] at found
      exact ⟨t, found, rfl, id⟩
  · intro query old found
    rw [slot_set streams sid query s next present]
    by_cases same : sid = query
    · rw [if_pos same]
      have here : s = old := Option.some.inj (present.symm.trans (same ▸ found))
      exact ⟨next, rfl, here ▸ node⟩
    · rw [if_neg same]
      exact ⟨old, found, rfl⟩

def Ended (channels : StrMap Nat) (sid : Nat) (s : CommandStream) : Prop :=
  s.bridge.ended = true → s.out.closed = true ∨ channels[s.node]? ≠ some sid

-- An entry of the registry is the newest stream of its node, and the task of a stream is on its way out only when its client
-- is gone or its entry is.
structure Registered (relay : Relay) : Prop where
  entry : ∀ (node : NodeId) (sid : Nat), relay.channels[node]? = some sid →
    ∃ s : CommandStream, relay.streams[sid]? = some s ∧ s.node = node
  newest : ∀ (node : NodeId) (sid : Nat), relay.channels[node]? = some sid →
    ∀ (later : Nat) (s : CommandStream), sid < later → relay.streams[later]? = some s → s.node ≠ node
  ended : EverySlot (Ended relay.channels) relay.streams

def Shrinks (channels next : StrMap Nat) : Prop :=
  ∀ (node : NodeId) (sid : Nat), next[node]? = some sid → channels[node]? = some sid

theorem shrinks_erase (channels : StrMap Nat) (node : NodeId) : Shrinks channels (channels.erase node) := by
  intro query sid found
  rw [lookup_erase] at found
  by_cases same : node = query
  · simp [same] at found
  · rwa [if_neg same] at found

theorem ended_shrinks (channels next : StrMap Nat) (shrinks : Shrinks channels next) (sid : Nat) (s : CommandStream)
    (before : Ended channels sid s) : Ended next sid s := by
  intro ended
  rcases before ended with hungUp | absent
  · exact Or.inl hungUp
  · exact Or.inr fun found => absent (shrinks s.node sid found)

theorem registered_shrinks (relay next : Relay) (registered : Registered relay)
    (shrinks : Shrinks relay.channels next.channels) (follows : Follows relay.streams next.streams)
    (ended : EverySlot (Ended next.channels) next.streams) : Registered next := by
  refine ⟨?_, ?_, ended⟩
  · intro node sid found
    obtain ⟨s, present, here⟩ := registered.entry node sid (shrinks node sid found)
    obtain ⟨t, kept, same⟩ := follows.forth sid s present
    exact ⟨t, kept, same.trans here⟩
  · intro node sid found later t after present
    obtain ⟨s, before, same, _⟩ := follows.back later t present
    rw [same]
    exact registered.newest node sid (shrinks node sid found) later s after before

theorem registered_attach (relay : Relay) (index : Nat) (opening : Opening) (registered : Registered relay) :
    Registered (relay.attachChannel index opening) := by
  refine ⟨?entry, ?newest, ?ended⟩
  case entry =>
    intro node sid found
    change ∃ s, (relay.streams ++ [CommandStream.opened opening.executor])[sid]? = some s ∧ s.node = node
    change (relay.channels.insert opening.node relay.streams.length)[node]? = some sid at found
    rw [lookup_insert] at found
    rw [slot_push]
    by_cases same : opening.node = node
    · rw [if_pos same] at found
      cases found
      exact ⟨_, if_pos rfl, same⟩
    · rw [if_neg same] at found
      obtain ⟨s, present, here⟩ := registered.entry node sid found
      have old : relay.streams.length ≠ sid := Nat.ne_of_gt (slot_bound _ _ _ present)
      exact ⟨s, by rw [if_neg old]; exact present, here⟩
  case newest =>
    intro node sid found later s after present
    change (relay.channels.insert opening.node relay.streams.length)[node]? = some sid at found
    change (relay.streams ++ [CommandStream.opened opening.executor])[later]? = some s at present
    rw [lookup_insert] at found
    rw [slot_push] at present
    by_cases last : relay.streams.length = later
    · rw [if_pos last] at present
      cases present
      by_cases same : opening.node = node
      · rw [if_pos same] at found
        cases found
        omega
      · exact same
    · rw [if_neg last] at present
      have bound := slot_bound _ _ _ present
      by_cases same : opening.node = node
      · rw [if_pos same] at found
        cases found
        omega
      · rw [if_neg same] at found
        exact registered.newest node sid found later s after present
  case ended =>
    refine every_slot_push _ relay.streams _ ?_ (fun ended => by cases ended)
    intro sid s present ended
    have old : relay.streams.length ≠ sid := Nat.ne_of_gt (slot_bound _ _ _ present)
    rcases registered.ended sid s present ended with hungUp | absent
    · exact Or.inl hungUp
    · apply Or.inr
      intro found
      change (relay.channels.insert opening.node relay.streams.length)[s.node]? = some sid at found
      rw [lookup_insert] at found
      by_cases same : opening.node = s.node
      · rw [if_pos same] at found
        exact old (Option.some.inj found)
      · rw [if_neg same] at found
        exact absent found

theorem registered_step (relay next : Relay) (label : RelayLabel) (registered : Registered relay)
    (taken : relayStep relay label = some next) : Registered next := by
  have still : Shrinks relay.channels relay.channels := fun _ _ => id
  cases relay_step_moves relay next label taken with
  | attached index opening here phase => exact registered_attach relay index opening registered
  | sent index sid dispatch s commands here phase present pushed =>
      refine registered_shrinks relay _ registered still (follows_set relay.streams sid s _ present rfl id) ?_
      exact every_slot_set _ relay.streams sid s _ present registered.ended (registered.ended sid s present)
  | streamed sid s after label present move =>
      have keeps := stream_keeps _ s after label move
      have node : after.node = s.node := congrArg Executor.nodeId keeps.executor
      refine registered_shrinks relay _ registered still (follows_set relay.streams sid s after present node keeps.hungUp) ?_
      apply every_slot_set _ relay.streams sid s after present registered.ended
      intro ended
      rcases stream_ends _ s after label move ended with hungUp | ⟨_, before | ⟨gone, _⟩⟩
      · exact Or.inl hungUp
      · rw [node]
        rcases registered.ended sid s present before with away | absent
        · exact Or.inl (keeps.hungUp away)
        · exact Or.inr absent
      · exact Or.inr (((senders_gone_iff relay sid).mp gone).1 after.node)
  | cleared index call here phase =>
      have shrinks := shrinks_erase relay.channels call.node
      exact registered_shrinks relay _ registered shrinks (follows_refl _)
        (every_slot_mono _ _ _ (ended_shrinks _ _ shrinks) registered.ended)
  | detached sid s present ending =>
      have shrinks := shrinks_erase relay.channels s.node
      refine registered_shrinks relay _ registered shrinks (follows_set relay.streams sid s _ present rfl id) ?_
      refine every_slot_set _ relay.streams sid s _ present
        (every_slot_mono _ _ _ (ended_shrinks _ _ shrinks) registered.ended) fun _ => Or.inr ?_
      change (relay.channels.erase s.node)[s.node]? ≠ some sid
      simp
  | _ => exact registered_shrinks relay _ registered still (follows_refl _) registered.ended

def Newest (streams : List CommandStream) (sid : Nat) (s : CommandStream) : Prop :=
  streams[sid]? = some s ∧
    ∀ (later : Nat) (t : CommandStream), sid < later → streams[later]? = some t → t.node ≠ s.node

def NewestRegistered (relay : Relay) : Prop :=
  ∀ (sid : Nat) (s : CommandStream), Newest relay.streams sid s → s.out.closed = false →
    relay.channels[s.node]? = some sid ∧ relay.isConnected s.node = true ∧ relay.cloneSender s.node = .sending sid

def DetachesOwn (relay : Relay) : RelayLabel → Prop
  | .detach sid => ∀ s ∈ relay.streams[sid]?, ∀ held ∈ relay.channels[s.node]?,
      held = sid ∨ ∃ t ∈ relay.streams[held]?, t.out.closed = true
  | _ => True

def connectStep (relay : Relay) : RelayLabel → Option Relay
  | .callDeregister _ => none
  | label => relayStep relay label

theorem newest_back (streams next : List CommandStream) (follows : Follows streams next) (sid : Nat) (t : CommandStream)
    (newest : Newest next sid t) (live : t.out.closed = false) :
    ∃ s, Newest streams sid s ∧ s.node = t.node ∧ s.out.closed = false := by
  obtain ⟨s, present, node, hungUp⟩ := follows.back sid t newest.1
  refine ⟨s, ⟨present, ?_⟩, node.symm, ?_⟩
  · intro later u after found
    obtain ⟨v, kept, same⟩ := follows.forth later u found
    rw [← node, ← same]
    exact newest.2 later v after kept
  · cases gone : s.out.closed with
    | false => rfl
    | true =>
        rw [hungUp gone] at live
        cases live

theorem entry_connected (relay : Relay) (node : NodeId) (sid : Nat) (found : relay.channels[node]? = some sid) :
    relay.isConnected node = true ∧ relay.cloneSender node = .sending sid := by
  have member : node ∈ relay.channels := by
    rw [Std.ExtTreeMap.mem_iff_isSome_getElem?, found]
    rfl
  exact ⟨Std.ExtTreeMap.contains_iff_mem.mpr member, by rw [Relay.cloneSender, found]⟩

theorem newest_of_entries (relay next : Relay) (before : NewestRegistered relay) (follows : Follows relay.streams next.streams)
    (kept : ∀ (sid : Nat) (s : CommandStream), Newest relay.streams sid s → s.out.closed = false →
      relay.channels[s.node]? = some sid → next.channels[s.node]? = some sid) : NewestRegistered next := by
  intro sid t newest live
  obtain ⟨s, old, node, open_⟩ := newest_back relay.streams next.streams follows sid t newest live
  have found : next.channels[t.node]? = some sid := node ▸ kept sid s old open_ (before sid s old open_).1
  exact ⟨found, entry_connected next t.node sid found⟩

theorem newest_attach (relay : Relay) (index : Nat) (opening : Opening) (before : NewestRegistered relay) :
    NewestRegistered (relay.attachChannel index opening) := by
  intro sid s newest live
  have found : (relay.attachChannel index opening).channels[s.node]? = some sid := by
    change (relay.channels.insert opening.node relay.streams.length)[s.node]? = some sid
    have present : (relay.streams ++ [CommandStream.opened opening.executor])[sid]? = some s := newest.1
    rw [slot_push] at present
    rw [lookup_insert]
    by_cases last : relay.streams.length = sid
    · rw [if_pos last] at present
      cases present
      exact (if_pos rfl).trans (congrArg some last)
    · rw [if_neg last] at present
      have bound := slot_bound _ _ _ present
      have other : opening.node ≠ s.node :=
        newest.2 relay.streams.length (CommandStream.opened opening.executor) bound (by
          change (relay.streams ++ [CommandStream.opened opening.executor])[relay.streams.length]? = _
          rw [slot_push, if_pos rfl])
      rw [if_neg other]
      refine (before sid s ⟨present, fun later t after kept => ?_⟩ live).1
      apply newest.2 later t after
      change (relay.streams ++ [CommandStream.opened opening.executor])[later]? = some t
      have earlier : relay.streams.length ≠ later := Nat.ne_of_gt (slot_bound _ _ _ kept)
      rw [slot_push, if_neg earlier]
      exact kept
  exact ⟨found, entry_connected _ s.node sid found⟩

-- The one step that can go wrong goes wrong exactly when it takes the entry of another stream that is still in use.
theorem newest_detach (relay : Relay) (sid : Nat) (s : CommandStream) (registered : Registered relay)
    (before : NewestRegistered relay) (present : relay.streams[sid]? = some s) (ending : s.bridge = .detaching) :
    NewestRegistered (relay.detachStream sid s) ↔ DetachesOwn relay (.detach sid) := by
  have erased : (relay.detachStream sid s).channels = relay.channels.erase s.node := rfl
  have follows : Follows relay.streams (relay.detachStream sid s).streams :=
    follows_set relay.streams sid s _ present rfl id
  apply Iff.intro
  · intro after old here held found
    cases present.symm.trans here
    by_cases own : held = sid
    · exact Or.inl own
    · obtain ⟨t, kept, node⟩ := registered.entry s.node held found
      cases gone : t.out.closed with
      | true => exact Or.inr ⟨t, kept, gone⟩
      | false =>
          have newest : Newest (relay.detachStream sid s).streams held t := by
            refine ⟨?_, fun later u beyond laterKept => ?_⟩
            · change (relay.streams.set sid _)[held]? = some t
              rw [slot_set _ _ _ s _ present, if_neg (Ne.symm own)]
              exact kept
            · obtain ⟨v, old, same, _⟩ := follows.back later u laterKept
              rw [same, node]
              exact registered.newest s.node held found later v beyond old
          have entry := (after held t newest gone).1
          rw [erased, node, lookup_erase, if_pos rfl] at entry
          cases entry
  · intro rule
    apply newest_of_entries relay _ before follows
    intro m t newest live found
    rw [erased, lookup_erase]
    by_cases same : s.node = t.node
    · rw [← same] at found
      rcases rule s present m found with own | ⟨u, kept, gone⟩
      · cases own
        cases present.symm.trans newest.1
        rcases registered.ended sid s present (by rw [ending]; rfl) with hungUp | absent
        · rw [live] at hungUp
          cases hungUp
        · exact absurd found absent
      · cases newest.1.symm.trans kept
        rw [live] at gone
        cases gone
    · rw [if_neg same]
      exact found

theorem connect_step_newest (relay next : Relay) (label : RelayLabel) (registered : Registered relay)
    (steady : relay.deregistrations = []) (before : NewestRegistered relay) (taken : connectStep relay label = some next) :
    NewestRegistered next ↔ DetachesOwn relay label := by
  have stepped : relayStep relay label = some next := by
    cases label <;> first | exact taken | cases taken
  have same : ∀ next : Relay, next.channels = relay.channels → Follows relay.streams next.streams → NewestRegistered next :=
    fun next channels follows => newest_of_entries relay next before follows fun _ _ _ _ found => channels ▸ found
  cases relay_step_moves relay next label stepped with
  | attached index opening here phase => exact iff_of_true (newest_attach relay index opening before) trivial
  | sent index sid dispatch s commands here phase present pushed =>
      exact iff_of_true (same _ rfl (follows_set relay.streams sid s _ present rfl id)) trivial
  | streamed sid s after label present move =>
      have keeps := stream_keeps _ s after label move
      have node : after.node = s.node := congrArg Executor.nodeId keeps.executor
      exact iff_of_true (same _ rfl (follows_set relay.streams sid s after present node keeps.hungUp)) trivial
  | detached sid s present ending => exact newest_detach relay sid s registered before present ending
  | removed index call here phase => rw [steady] at here; cases here
  | cleared index call here phase => rw [steady] at here; cases here
  | returned index call here phase => rw [steady] at here; cases here
  | _ => exact iff_of_true (same _ rfl (follows_refl _)) trivial

theorem connect_step_frame (relay next : Relay) (label : RelayLabel)
    (frame : Registered relay ∧ relay.deregistrations = []) (taken : connectStep relay label = some next) :
    Registered next ∧ next.deregistrations = [] := by
  have stepped : relayStep relay label = some next := by
    cases label <;> first | exact taken | cases taken
  apply And.intro (registered_step relay next label frame.1 stepped)
  cases relay_step_moves relay next label stepped with
  | callDeregister node => cases taken
  | removed index call here phase => rw [frame.2] at here; cases here
  | cleared index call here phase => rw [frame.2] at here; cases here
  | returned index call here phase => rw [frame.2] at here; cases here
  | _ => exact frame.2

theorem registered_boot (nodes : Finset NodeId) : Registered (Relay.boot nodes) :=
  ⟨fun node sid found => by simp [Relay.boot] at found, fun node sid found => by simp [Relay.boot] at found,
    every_slot_nil _⟩

theorem newest_registered_iff (nodes : Finset NodeId) (labels : List RelayLabel) :
    Throughout connectStep NewestRegistered (Relay.boot nodes) labels ↔
      Obeys connectStep DetachesOwn (Relay.boot nodes) labels :=
  throughout_iff_obeys connectStep (fun relay => Registered relay ∧ relay.deregistrations = []) NewestRegistered DetachesOwn
    (fun relay label next frame taken => connect_step_frame relay next label frame taken)
    (fun relay label next frame before taken => connect_step_newest relay next label frame.1 frame.2 before taken)
    (Relay.boot nodes) labels ⟨registered_boot nodes, rfl⟩ (fun _ _ newest => nomatch newest.1)

def sampleAgent : Executor := ⟨"n1", true⟩

-- An agent opens a second stream before the daemon has noticed that the first is dead. The task of the first one then ends,
-- and takes the new entry along.
def sampleReconnect : List RelayLabel :=
  [.callStream sampleAgent, .stepStream 0, .stepStream 0, .callStream sampleAgent, .stepStream 1, .stepStream 1,
    .stream 0 .recvNone, .detach 0]

theorem newest_last (streams : List CommandStream) (sid : Nat) (s : CommandStream) (present : streams[sid]? = some s)
    (last : streams.length = sid + 1) : Newest streams sid s := by
  refine ⟨present, fun later t after found => ?_⟩
  have bound := slot_bound _ _ _ found
  omega

theorem reconnected_stream_lost : ∃ relay : Relay, runFrom connectStep (Relay.boot {"n1"}) sampleReconnect = some relay ∧
    Newest relay.streams 1 (CommandStream.opened sampleAgent) ∧ relay.isConnected "n1" = false ∧
    ¬ NewestRegistered relay := by
  refine ⟨_, rfl, newest_last _ _ _ rfl rfl, rfl, fun registered => ?_⟩
  have connected := (registered 1 _ (newest_last _ _ _ rfl rfl) rfl).2.1
  cases connected

end Hpc.Plane
