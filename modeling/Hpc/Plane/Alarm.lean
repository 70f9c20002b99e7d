import Hpc.Monitor.Mirror
import Hpc.Plane.Cadence

set_option autoImplicit false

namespace Hpc.Plane

open Hpc.Core Hpc.Daemon Hpc.Lib Hpc.Monitor

-- The daemon with its reaper in real time, and the monitor that scrapes it. Beside them stands the daemon as the last
-- answered scrape found it.
structure Alarmed (F : Type) where
  reaping : Reaping F (Json F)
  watch : Watch F
  read : Option (Watched F (Json F))

inductive AlarmedLabel (F : Type) where
  | system (moment : Moment F)
  | scrape
  | unanswered

section Machine

variable {F : Type} [F64Text F] (serde : SerdeF64 F) (config : DaemonConfig F) (detector : Detector F) (period lag : Duration)

def alarmedStep (state : Alarmed F) : AlarmedLabel F → Option (Alarmed F)
  | .system moment =>
      (reapingStep (jsonCodec serde) config period lag state.reaping moment).map fun reaping => { state with reaping := reaping }
  | .scrape =>
      match scrape serde (listBody serde (listNodes state.reaping.watched.state.daemon)) with
      | .ok nodes => some { state with watch := state.watch.observe detector nodes, read := some state.reaping.watched }
      | .error _ => some { state with watch := state.watch.fail }
  | .unanswered => some { state with watch := state.watch.fail }

def Sounding (id : NodeId) (watch : Watch F) : Prop := (history id watch.log).getLast? = some true

def Silent (id : NodeId) (watched : Watched F (Json F)) : Prop :=
  ∀ contact, watched.contacts[id]? = some contact →
    contact.toNanos + config.nodeTimeout.toNanos + max (config.nodeTimeout.toNanos / 2) Duration.nanosPerSec + lag.toNanos +
      Duration.nanosPerSec < watched.clock.toNanos

-- The alarm is for the nodes of the table that the detector finds something wrong with, and a silent one is among them.
structure AlarmsFor (watched : Watched F (Json F)) (watch : Watch F) : Prop where
  sick : ∀ (id : NodeId) (record : NodeRecord F), watched.state.daemon.nodes[id]? = some record →
    ∃ loaded, record.traverse serde.reread = .ok loaded ∧ (Sounding id watch ↔ detector.evaluate loaded ≠ [])
  gone : ∀ id : NodeId, watched.state.daemon.nodes[id]? = none → ¬ Sounding id watch
  silent : ∀ (id : NodeId) (record : NodeRecord F), watched.state.daemon.nodes[id]? = some record →
    Silent config lag id watched → Sounding id watch ∧ watch.metrics.nodeUp[[id]]? = some 0

def AlarmsLast (state : Alarmed F) : Prop :=
  match state.read with
  | none => state.watch.log = []
  | some watched => AlarmsFor serde config detector lag watched state.watch

structure Alert (state : Alarmed F) : Prop where
  prompt : Prompt config period lag state.reaping
  rows : AllRows (jsonCodec serde) Kept state.reaping.watched.state
  remembers : ∀ id, Remembers state.watch id
  alarms : AlarmsLast serde config detector lag state

theorem evaluate_unreachable (node : NodeRecord F) (gone : node.status = .unreachable) : detector.evaluate node ≠ [] := by
  rw [Detector.evaluate, if_pos gone]
  exact List.cons_ne_nil _ _

theorem observe_alarms (timer : reaperTimer config = some period) (reaping : Reaping F (Json F))
    (prompt : Prompt config period lag reaping) (nodes : List (NodeRecord F))
    (scraped : Scraped serde reaping.watched.state.daemon.nodes nodes) (before : Watch F)
    (remembers : ∀ id, Remembers (before.observe detector nodes) id) :
    AlarmsFor serde config detector lag reaping.watched (before.observe detector nodes) := by
  have mirrors := scraped_mirrors serde detector _ nodes scraped before.metrics
  have sounding (id : NodeId) : Sounding id (before.observe detector nodes) ↔
      ∃ node ∈ nodes, node.info.nodeId = id ∧ detector.evaluate node ≠ [] := by
    rw [Sounding, ← (remembers id).latest]
    exact (mem_current _ id).trans (degraded_ids detector before.metrics nodes id)
  have sick (id : NodeId) (record : NodeRecord F) (found : reaping.watched.state.daemon.nodes[id]? = some record) :
      ∃ loaded, record.traverse serde.reread = .ok loaded ∧
        (Sounding id (before.observe detector nodes) ↔ detector.evaluate loaded ≠ []) := by
    obtain ⟨loaded, member, came, named⟩ := scraped.listed id record found
    refine ⟨loaded, came, (sounding id).trans ⟨?_, fun reasons => ⟨loaded, member, named, reasons⟩⟩⟩
    rintro ⟨node, present, same, reasons⟩
    have once : node = loaded := List.inj_on_of_nodup_map scraped.distinct present member (same.trans named.symm)
    exact once ▸ reasons
  refine ⟨sick, ?gone, ?silent⟩
  case gone =>
    intro id none sounds
    obtain ⟨node, member, named, _⟩ := (sounding id).mp sounds
    obtain ⟨record, found⟩ := scraped.known node member
    rw [named, none] at found
    cases found
  case silent =>
    intro id record found silent
    have unreachable : record.status = .unreachable := by
      by_contra reachable
      obtain ⟨contact, last, _, heard⟩ := prompt_heard config period lag timer reaping prompt id record found reachable
      exact absurd heard (Nat.not_le.mpr (silent contact last))
    obtain ⟨loaded, came, erased, shows⟩ := mirrors.shown id record found
    have status : loaded.status = .unreachable :=
      (congrArg (fun blank : NodeRecord Unit => blank.status) erased).trans unreachable
    obtain ⟨other, again, sounds⟩ := sick id record found
    have same : other = loaded := Except.ok.inj (again.symm.trans came)
    apply And.intro
    · exact sounds.mpr (same ▸ evaluate_unreachable detector loaded status)
    · have up := shows.nodeUp
      rw [status] at up
      exact up

theorem alarms_fail (state : Alarmed F) (alarms : AlarmsLast serde config detector lag state) :
    AlarmsLast serde config detector lag { state with watch := state.watch.fail } := by
  rw [AlarmsLast] at alarms ⊢
  cases last : state.read with
  | none =>
      simp only [last] at alarms ⊢
      exact alarms
  | some watched =>
      simp only [last] at alarms ⊢
      exact ⟨alarms.sick, alarms.gone, alarms.silent⟩

theorem alert_step (timer : reaperTimer config = some period) (state next : Alarmed F) (label : AlarmedLabel F)
    (alert : Alert serde config detector period lag state)
    (taken : alarmedStep serde config detector period lag state label = some next) :
    Alert serde config detector period lag next := by
  have unheard : Alert serde config detector period lag { state with watch := state.watch.fail } :=
    ⟨alert.prompt, alert.rows, fun id => ⟨(alert.remembers id).alternates, (alert.remembers id).latest⟩,
      alarms_fail serde config detector lag state alert.alarms⟩
  cases label with
  | system moment =>
      obtain ⟨reaping, stepped, rfl⟩ := Option.map_eq_some_iff.mp taken
      have prompt := prompt_step (jsonCodec serde) config period lag state.reaping reaping moment alert.prompt stepped
      refine ⟨prompt, ?_, alert.remembers, alert.alarms⟩
      rw [reapingStep] at stepped
      split at stepped
      case isFalse => cases stepped
      case isTrue timely =>
      obtain ⟨watched, watching, rfl⟩ := Option.map_eq_some_iff.mp stepped
      obtain ⟨_, _, _, overlapped⟩ := watched_step_parts (jsonCodec serde) config _ watched moment watching
      exact overlap_step_rows (jsonCodec serde) Kept config (kept_rows serde config.thresholds) _ _ moment.phase alert.rows
        overlapped
  | unanswered =>
      cases taken
      exact unheard
  | scrape =>
      rw [alarmedStep] at taken
      cases answered : scrape serde (listBody serde (listNodes state.reaping.watched.state.daemon)) with
      | error message =>
          rw [answered] at taken
          cases taken
          exact unheard
      | ok nodes =>
          rw [answered] at taken
          cases taken
          have keyed : SelfKeyed (fun record : NodeRecord F => record.info.nodeId) state.reaping.watched.state.daemon.nodes :=
            fun id record found => (alert.rows.memory id record found).1
          have scraped := scraped_nodes serde _ keyed nodes answered
          have remembers (id : NodeId) : Remembers (state.watch.observe detector nodes) id := by
            rw [← observe_scrapes detector state.watch ⟨nodes, scraped.distinct⟩]
            exact scrape_remembers detector state.watch _ id (alert.remembers id)
          exact ⟨alert.prompt, alert.rows, remembers,
            observe_alarms serde config detector period lag timer state.reaping alert.prompt nodes scraped state.watch remembers⟩

-- From an agent that falls silent to the operator's log: whatever the calls, the ticks and the scrapes are and in whichever
-- order they come, the monitor's alarm is for exactly the sick nodes of the table it read last, and every node that had been
-- silent for longer than the timeout, the reaper's period and the lag was among them and exported as down.
theorem silent_node_alarmed (start : SharedState F (Json F)) (booted : bootstrap (jsonCodec serde) Store.fresh = .ok start)
    (clock : Duration) (timer : reaperTimer config = some period) (labels : List (AlarmedLabel F)) (finish : Alarmed F)
    (ran : runFrom (alarmedStep serde config detector period lag)
      ⟨⟨⟨⟨start, []⟩, ∅, clock⟩, clock.toNanos⟩, Watch.fresh, none⟩ labels = some finish) :
    AlarmsLast serde config detector lag finish := by
  have rows := overlap_run_rows (jsonCodec serde) Kept config (kept_rows serde config.thresholds) start [] ⟨start, []⟩ booted rfl
  have unlogged (id : NodeId) : Remembers (Watch.fresh : Watch F) id :=
    ⟨alternates_nil, iff_of_false Std.ExtTreeSet.not_mem_empty (by simp [Watch.fresh, history])⟩
  have quiet : AlarmsLast serde config detector lag ⟨⟨⟨⟨start, []⟩, ∅, clock⟩, clock.toNanos⟩, Watch.fresh, none⟩ := rfl
  have alert := run_invariant (alarmedStep serde config detector period lag) (Alert serde config detector period lag)
    (fun state label next before taken => alert_step serde config detector period lag timer state next label before taken)
    _ finish labels ⟨prompt_boot (jsonCodec serde) config Store.fresh start booted clock period lag, rows, unlogged, quiet⟩ ran
  exact alert.alarms

end Machine

section Samples

def sampleScraped (clock : Duration) : List (AlarmedLabel ℚ) :=
  [.system ⟨clock, .update (.register (sampleInfo "n1") (nowUnix clock))⟩, .unanswered, .scrape]

theorem fresh_readable (info : NodeInfo) (clock : Duration) :
    readable (freshlyRegistered info clock : Watched ℚ (Json ℚ)).state.daemon.nodes = true := by
  rw [readable_iff]
  intro record member
  obtain ⟨id, found⟩ := (mem_values _ record).mp member
  rw [freshlyRegistered, lookup_insert] at found
  split at found
  · cases found
    exact fun float absent => by cases absent
  · simp at found

theorem sample_scraped_runs (clock period lag : Duration) :
    ∃ finish, runFrom (alarmedStep rationalSerde rationalConfig ⟨rationalConfig.thresholds⟩ period lag)
      ⟨⟨⟨⟨⟨∅, ∅, Store.fresh⟩, []⟩, ∅, clock⟩, clock.toNanos⟩, Watch.fresh, none⟩ (sampleScraped clock) = some finish := by
  obtain ⟨reaping, stepped, rest⟩ := (run_cons _ _ _ _ _).mp
    (registered_at_start (jsonCodec rationalSerde) rationalConfig period lag (sampleInfo "n1") clock)
  rw [runFrom, Option.some.injEq] at rest
  obtain ⟨nodes, answered⟩ := (scrape_succeeds_iff rationalSerde reaping.watched.state.daemon).mpr
    (by rw [rest]; exact fresh_readable (sampleInfo "n1") clock)
  refine ⟨⟨reaping, Watch.fresh.fail.observe ⟨rationalConfig.thresholds⟩ nodes, some reaping.watched⟩, ?_⟩
  rw [sampleScraped, run_cons]
  refine ⟨⟨reaping, Watch.fresh, none⟩, ?_, ?_⟩
  · rw [alarmedStep]
    dsimp only
    rw [stepped, Option.map_some]
  · simp only [runFrom, alarmedStep, answered, Option.bind_some]

theorem sample_scraped_alarms :
    ∃ finish : Alarmed ℚ,
      runFrom (alarmedStep rationalSerde rationalConfig ⟨rationalConfig.thresholds⟩ (.fromSecs 15) (.fromSecs 1))
        ⟨⟨⟨⟨⟨∅, ∅, Store.fresh⟩, []⟩, ∅, .fromSecs 1000⟩, (Duration.fromSecs 1000).toNanos⟩, Watch.fresh, none⟩
          (sampleScraped (.fromSecs 1000)) = some finish ∧
      AlarmsLast rationalSerde rationalConfig ⟨rationalConfig.thresholds⟩ (.fromSecs 1) finish :=
  (sample_scraped_runs (.fromSecs 1000) (.fromSecs 15) (.fromSecs 1)).imp fun finish ran =>
    ⟨ran, silent_node_alarmed rationalSerde rationalConfig ⟨rationalConfig.thresholds⟩ (.fromSecs 15) (.fromSecs 1)
      ⟨∅, ∅, Store.fresh⟩ rfl (.fromSecs 1000) rfl (sampleScraped (.fromSecs 1000)) finish ran⟩

end Samples

end Hpc.Plane
