import Hpc.Daemon.Recovery

set_option autoImplicit false

namespace Hpc.Daemon

open Hpc.Core Hpc.Lib

structure InFlight (F : Type) where
  write : Write F
  committed : Bool

-- Calls are kept, finished ones too, in the order of their updates.
structure Concurrent (F Bytes : Type) where
  daemon : SharedState F Bytes
  calls : List (InFlight F)

inductive Move (F : Type) where
  | update (call : Call F)
  | commit (index : Nat)
  | heartbeat (nodeId : NodeId) (now : UInt64)
  | reap (now : UInt64)

section Machine

variable {F Bytes : Type} [F64 F] (codec : Codec (NodeRecord F) Bytes) (config : DaemonConfig F)

def concurrentStep (state : Concurrent F Bytes) : Move F → Option (Concurrent F Bytes)
  | .update call =>
      match call.update config.thresholds state.daemon with
      | .error _ => some state
      | .ok (daemon, write) => some ⟨daemon, state.calls ++ [⟨write, false⟩]⟩
  | .commit index =>
      match state.calls[index]? with
      | some ⟨write, false⟩ =>
          some ⟨{ state.daemon with store := write.commit codec state.daemon.store }, state.calls.set index ⟨write, true⟩⟩
      | _ => none
  | .heartbeat nodeId now => some { state with daemon := (heartbeat nodeId now state.daemon).2 }
  | .reap now => some { state with daemon := (reapStale config.nodeTimeout.asSecs now state.daemon).2 }

end Machine

section Agreement

variable {F Bytes : Type} (codec : Codec (NodeRecord F) Bytes)

def Quiescent (state : Concurrent F Bytes) : Prop := ∀ call ∈ state.calls, call.committed = true

def Alike (saved live : NodeRecord F) : Prop := saved.info = live.info ∧ saved.latestMetrics = live.latestMetrics

def Level (saved live : NodeTable F) : Prop := ∀ id : NodeId, Option.Rel Alike saved[id]? live[id]?

def Agrees (state : SharedState F Bytes) : Prop :=
  ∃ saved : NodeTable F, state.store.nodes = rows codec saved ∧ Level saved state.nodes

def CommitsInOrder (state : Concurrent F Bytes) : Move F → Prop
  | .commit index => ∀ call ∈ state.calls[index]?, ∀ later ∈ state.calls.drop (index + 1),
      later.write.nodeId = call.write.nodeId → later.committed = false
  | _ => True

instance (state : Concurrent F Bytes) : Decidable (Quiescent state) :=
  inferInstanceAs (Decidable (∀ call ∈ state.calls, call.committed = true))

instance (state : Concurrent F Bytes) : ∀ move, Decidable (CommitsInOrder state move)
  | .commit index => inferInstanceAs (Decidable (∀ call ∈ state.calls[index]?, ∀ later ∈ state.calls.drop (index + 1),
      later.write.nodeId = call.write.nodeId → later.committed = false))
  | .update _ => isTrue trivial
  | .heartbeat _ _ => isTrue trivial
  | .reap _ => isTrue trivial

def landed (id : NodeId) (base : Option (NodeRecord F)) (calls : List (InFlight F)) : Option (NodeRecord F) :=
  calls.foldl (fun current call => if call.write.nodeId = id then call.write.record else current) base

def onDisk (calls : List (InFlight F)) : List (InFlight F) := calls.filter InFlight.committed

theorem landed_append (id : NodeId) (base : Option (NodeRecord F)) (front back : List (InFlight F)) :
    landed id base (front ++ back) = landed id (landed id base front) back := by
  simp [landed]

theorem landed_cons (id : NodeId) (base : Option (NodeRecord F)) (call : InFlight F) (rest : List (InFlight F)) :
    landed id base (call :: rest) = landed id (if call.write.nodeId = id then call.write.record else base) rest := rfl

theorem landed_untouched (id : NodeId) (base : Option (NodeRecord F)) (calls : List (InFlight F))
    (untouched : ∀ call ∈ calls, call.write.nodeId ≠ id) : landed id base calls = base := by
  induction calls generalizing base with
  | nil => rfl
  | cons call rest ih =>
      rw [landed_cons, if_neg (untouched call List.mem_cons_self)]
      exact ih base fun later member => untouched later (List.mem_cons_of_mem _ member)

theorem landed_mark (id : NodeId) (base : Option (NodeRecord F)) (write : Write F) (front back : List (InFlight F))
    (early late : Bool) :
    landed id base (front ++ ⟨write, early⟩ :: back) = landed id base (front ++ ⟨write, late⟩ :: back) := by
  rw [landed_append, landed_append, landed_cons, landed_cons]

theorem on_disk_pending (write : Write F) (front back : List (InFlight F)) :
    onDisk (front ++ ⟨write, false⟩ :: back) = onDisk front ++ onDisk back := by
  simp [onDisk]

theorem on_disk_committed (write : Write F) (front back : List (InFlight F)) :
    onDisk (front ++ ⟨write, true⟩ :: back) = onDisk front ++ ⟨write, true⟩ :: onDisk back := by
  simp [onDisk]

theorem on_disk_quiescent (calls : List (InFlight F)) (done : ∀ call ∈ calls, call.committed = true) :
    onDisk calls = calls := by
  rw [onDisk, List.filter_eq_self]
  exact done

theorem landed_commit (id : NodeId) (base : Option (NodeRecord F)) (write : Write F) (front back : List (InFlight F))
    (ordered : ∀ call ∈ back, call.write.nodeId = write.nodeId → call.committed = false) :
    landed id base (onDisk (front ++ ⟨write, true⟩ :: back)) =
      if write.nodeId = id then write.record else landed id base (onDisk (front ++ ⟨write, false⟩ :: back)) := by
  rw [on_disk_committed, on_disk_pending, landed_append, landed_cons, landed_append]
  by_cases same : write.nodeId = id
  · rw [if_pos same, if_pos same]
    apply landed_untouched
    intro call member touched
    obtain ⟨present, committed⟩ := List.mem_filter.mp member
    rw [ordered call present (touched.trans same.symm)] at committed
    cases committed
  · rw [if_neg same, if_neg same]

end Agreement

section Runs

variable {F Bytes : Type} (codec : Codec (NodeRecord F) Bytes)

-- Memory holds what all calls leave, the disk what the committed ones leave.
structure Interleaved (base : NodeTable F) (state : Concurrent F Bytes) : Prop where
  own : OwnKeys state.daemon.nodes
  memory : ∀ id : NodeId, Option.Rel Alike (landed id base[id]? state.calls) state.daemon.nodes[id]?
  disk : ∃ saved : NodeTable F, state.daemon.store.nodes = rows codec saved ∧
    ∀ id : NodeId, saved[id]? = landed id base[id]? (onDisk state.calls)

theorem alike_refl (record : Option (NodeRecord F)) : Option.Rel Alike record record := by
  cases record with
  | none => exact .none
  | some value => exact .some ⟨rfl, rfl⟩

theorem alike_map (saved live : Option (NodeRecord F)) (change : NodeRecord F → NodeRecord F)
    (keeps : ∀ record, (change record).info = record.info ∧ (change record).latestMetrics = record.latestMetrics)
    (alike : Option.Rel Alike saved live) : Option.Rel Alike saved (live.map change) := by
  cases alike with
  | none => exact .none
  | some same =>
      obtain ⟨info, sample⟩ := same
      exact .some ⟨info.trans (keeps _).1.symm, sample.trans (keeps _).2.symm⟩

theorem interleaved_touch (base : NodeTable F) (state : Concurrent F Bytes) (nodes : NodeTable F)
    (change : NodeId → NodeRecord F → NodeRecord F)
    (keeps : ∀ id record, (change id record).info = record.info ∧ (change id record).latestMetrics = record.latestMetrics)
    (changed : ∀ id : NodeId, nodes[id]? = (state.daemon.nodes[id]?).map (change id)) (inter : Interleaved codec base state) :
    Interleaved codec base { state with daemon := { state.daemon with nodes := nodes } } := by
  refine ⟨own_keys_map _ nodes change inter.own (fun id record => (keeps id record).1) changed, ?_, inter.disk⟩
  intro id
  change Option.Rel Alike _ nodes[id]?
  rw [changed]
  exact alike_map _ _ (change id) (keeps id) (inter.memory id)

theorem interleaved_commit (base : NodeTable F) (daemon : SharedState F Bytes) (write : Write F) (front back : List (InFlight F))
    (ordered : ∀ call ∈ back, call.write.nodeId = write.nodeId → call.committed = false)
    (inter : Interleaved codec base ⟨daemon, front ++ ⟨write, false⟩ :: back⟩) :
    Interleaved codec base ⟨{ daemon with store := write.commit codec daemon.store }, front ++ ⟨write, true⟩ :: back⟩ := by
  obtain ⟨saved, written, levels⟩ := inter.disk
  refine ⟨inter.own, ?memory, write.onTable saved, write_rows codec write saved daemon.store written, ?disk⟩
  case memory =>
    intro id
    change Option.Rel Alike (landed id base[id]? (front ++ ⟨write, true⟩ :: back)) _
    rw [landed_mark id _ write front back true false]
    exact inter.memory id
  case disk =>
    intro id
    rw [write_lookup, levels id]
    exact (landed_commit id _ write front back ordered).symm

theorem interleaved_quiescent (base : NodeTable F) (state : Concurrent F Bytes) (inter : Interleaved codec base state)
    (quiet : Quiescent state) : Agrees codec state.daemon := by
  obtain ⟨saved, written, levels⟩ := inter.disk
  refine ⟨saved, written, fun id => ?_⟩
  rw [levels id, on_disk_quiescent state.calls quiet]
  exact inter.memory id

theorem bootstrap_agrees (lossless : Lossless codec) (store : Store Bytes) (saved : NodeTable F) (start : SharedState F Bytes)
    (written : store.nodes = rows codec saved) (own : OwnKeys saved) (booted : bootstrap codec store = .ok start) :
    OwnKeys start.nodes ∧ Agrees codec start := by
  obtain ⟨same, found, kept, lookup⟩ := bootstrap_lossless codec lossless store saved written own
  cases found.symm.trans booted
  refine ⟨own_keys_map saved start.nodes (fun _ record => { record with status := .unreachable }) own (fun _ _ => rfl) lookup,
    saved, by rw [kept]; exact written, fun id => ?_⟩
  rw [lookup]
  exact alike_map _ _ _ (fun _ => ⟨rfl, rfl⟩) (alike_refl saved[id]?)

variable [F64 F] (config : DaemonConfig F)

theorem interleaved_update (base : NodeTable F) (state next : Concurrent F Bytes) (call : Call F)
    (inter : Interleaved codec base state) (taken : concurrentStep codec config state (.update call) = some next) :
    Interleaved codec base next := by
  simp only [concurrentStep] at taken
  cases updated : call.update config.thresholds state.daemon with
  | error failure =>
      rw [updated] at taken
      cases taken
      exact inter
  | ok result =>
      obtain ⟨daemon, write⟩ := result
      rw [updated] at taken
      cases taken
      obtain ⟨_, nodes, store, _⟩ := update_spec config.thresholds call state.daemon daemon write inter.own updated
      obtain ⟨saved, written, levels⟩ := inter.disk
      refine ⟨nodes ▸ write_own_keys write _ inter.own, ?memory, saved, store ▸ written, ?disk⟩
      case memory =>
        intro id
        change Option.Rel Alike (landed id base[id]? (state.calls ++ [⟨write, false⟩])) daemon.nodes[id]?
        rw [landed_append, landed_cons, nodes, write_lookup]
        by_cases same : write.nodeId = id
        · rw [if_pos same, if_pos same]
          exact alike_refl write.record
        · rw [if_neg same, if_neg same]
          exact inter.memory id
      case disk =>
        intro id
        change _ = landed id base[id]? (onDisk (state.calls ++ [⟨write, false⟩]))
        rw [on_disk_pending, levels id]
        exact congrArg _ (List.append_nil _).symm

theorem interleaved_step (base : NodeTable F) (state next : Concurrent F Bytes) (move : Move F)
    (inter : Interleaved codec base state) (ordered : CommitsInOrder state move)
    (taken : concurrentStep codec config state move = some next) : Interleaved codec base next := by
  cases move with
  | update call => exact interleaved_update codec config base state next call inter taken
  | commit index =>
      simp only [concurrentStep] at taken
      cases found : state.calls[index]? with
      | none => rw [found] at taken; cases taken
      | some call =>
          obtain ⟨write, committed⟩ := call
          cases committed with
          | true => rw [found] at taken; cases taken
          | false =>
              rw [found] at taken
              cases taken
              obtain ⟨bound, here⟩ := List.getElem?_eq_some_iff.mp found
              have split : state.calls = state.calls.take index ++ ⟨write, false⟩ :: state.calls.drop (index + 1) := by
                rw [← here, List.getElem_cons_drop, List.take_append_drop]
              have marked : state.calls.set index ⟨write, true⟩ =
                  state.calls.take index ++ ⟨write, true⟩ :: state.calls.drop (index + 1) :=
                List.set_eq_take_append_cons_drop.trans (if_pos bound)
              rw [marked]
              refine interleaved_commit codec base state.daemon write _ _ (ordered ⟨write, false⟩ found) ?_
              rw [← split]
              exact inter
  | heartbeat nodeId now =>
      cases taken
      rw [heartbeat_next]
      refine interleaved_touch codec base state _ _ ?_ (heartbeat_table_lookup nodeId now state.daemon.nodes) inter
      intro id record
      by_cases same : nodeId = id
      · rw [if_pos same]; exact ⟨rfl, rfl⟩
      · rw [if_neg same]; exact ⟨rfl, rfl⟩
  | reap now =>
      cases taken
      have keeps := reap_record_fields (F := F) (saturatingSub now config.nodeTimeout.asSecs)
      exact interleaved_touch codec base state _ _ (fun _ record => ⟨(keeps record).1, (keeps record).2.2⟩)
        (reap_table_lookup config.nodeTimeout.asSecs now state.daemon.nodes) inter

theorem agrees_at_quiescence (start : SharedState F Bytes) (moves : List (Move F)) (own : OwnKeys start.nodes)
    (level : Agrees codec start) (ordered : Obeys (concurrentStep codec config) CommitsInOrder ⟨start, []⟩ moves) :
    Throughout (concurrentStep codec config) (fun state => Quiescent state → Agrees codec state.daemon) ⟨start, []⟩ moves := by
  obtain ⟨base, written, alike⟩ := level
  have initial : Interleaved codec base ⟨start, []⟩ := ⟨own, alike, base, written, fun _ => rfl⟩
  have always := throughout_of_obeys (concurrentStep codec config) (Interleaved codec base) CommitsInOrder
    (fun state move next inter rule taken => interleaved_step codec config base state next move inter rule taken)
    ⟨start, []⟩ moves initial ordered
  exact throughout_mono (concurrentStep codec config) _ _
    (fun state inter quiet => interleaved_quiescent codec base state inter quiet) ⟨start, []⟩ moves always

end Runs

section Samples

def rationalReport : MetricsReport ℚ := ⟨"n1", 1001, ⟨12, []⟩, ⟨100, 50, 50, 0, 0⟩, ⟨1, 1, 1⟩, [], ⟨0, 0, 0, 0⟩, []⟩

-- A node is registered, reports, and is removed. The removal reaches the disk before the sample does where the two
-- transactions are swapped.
def reportThenRemove (swapped : Bool) : List (Move ℚ) :=
  [.update (.register (sampleInfo "n1") 1000), .commit 0, .update (.ingest rationalReport 1001),
    .update (.deregister "n1")] ++ if swapped then [.commit 2, .commit 1] else [.commit 1, .commit 2]

def afterRemoval (swapped : Bool) : Concurrent ℚ (Json ℚ) :=
  (runFrom (concurrentStep (jsonCodec rationalSerde) rationalConfig) ⟨⟨∅, ∅, Store.fresh⟩, []⟩
    (reportThenRemove swapped)).getD ⟨⟨∅, ∅, Store.fresh⟩, []⟩

theorem in_order_agrees :
    Throughout (concurrentStep (jsonCodec rationalSerde) rationalConfig)
      (fun state => Quiescent state → Agrees (jsonCodec rationalSerde) state.daemon) ⟨⟨∅, ∅, Store.fresh⟩, []⟩
      (reportThenRemove false) :=
  agrees_at_quiescence (jsonCodec rationalSerde) rationalConfig ⟨∅, ∅, Store.fresh⟩ (reportThenRemove false)
    (by simp [OwnKeys]) ⟨∅, rfl, fun _ => alike_refl _⟩ (by decide +kernel)

theorem removed_node_resurrected :
    runFrom (concurrentStep (jsonCodec rationalSerde) rationalConfig) ⟨⟨∅, ∅, Store.fresh⟩, []⟩ (reportThenRemove true) =
        some (afterRemoval true) ∧
      Quiescent (afterRemoval true) ∧ ¬ Agrees (jsonCodec rationalSerde) (afterRemoval true).daemon := by
  refine ⟨rfl, by decide +kernel, ?_⟩
  intro ⟨saved, written, level⟩
  have present : ((afterRemoval true).daemon.store.nodes["n1"]?).isSome = true := by decide +kernel
  have absent : (afterRemoval true).daemon.nodes["n1"]? = none := by decide +kernel
  have here := level "n1"
  rw [written, rows_lookup, Option.isSome_map] at present
  rw [absent] at here
  cases found : saved["n1"]? with
  | none => rw [found] at present; cases present
  | some record => rw [found] at here; cases here

end Samples

end Hpc.Daemon
