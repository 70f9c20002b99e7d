import Hpc.Daemon.Reaper
import Hpc.Plane.Timers

set_option autoImplicit false

namespace Hpc.Plane

open Hpc.Core Hpc.Daemon Hpc.Lib

structure Reaping (F Bytes : Type) where
  watched : Watched F Bytes
  due : Nat

section Machine

variable {F Bytes : Type} [F64 F] (codec : Codec (NodeRecord F) Bytes) (config : DaemonConfig F)

-- A process starts with a tick at once, and each tick is followed by one a period after it was due.
def rearm (period : Duration) (due : Nat) (moment : Moment F) : Nat :=
  match moment.phase with
  | .reap _ => due + period.toNanos
  | .restart => moment.instant.toNanos
  | _ => due

def ontime (lag : Duration) (due : Nat) (moment : Moment F) : Bool :=
  match moment.phase with
  | .reap _ => due ≤ moment.instant.toNanos && moment.instant.toNanos ≤ due + lag.toNanos
  | .restart => true
  | _ => moment.instant.toNanos ≤ due + lag.toNanos

-- No tick comes before it is due or later than the lag, so nothing else can happen later than that before it.
def reapingStep (period lag : Duration) (reaping : Reaping F Bytes) (moment : Moment F) : Option (Reaping F Bytes) :=
  if ontime lag reaping.due moment then
    (watchedStep codec config reaping.watched moment).map fun next => ⟨next, rearm period reaping.due moment⟩
  else none

-- The process is up and nobody removes the node, and it lets no more than the cadence pass after a contact.
structure Attentive (id : NodeId) (cadence : Duration) (watched : Watched F Bytes) (moment : Moment F) : Prop where
  serves : moment.phase ≠ .restart
  stays : moment.phase ≠ .update (.deregister id)
  heard : ∀ contact, watched.contacts[id]? = some contact →
    moment.instant.toNanos ≤ contact.toNanos + cadence.toNanos

def InReach (id : NodeId) (watched : Watched F Bytes) : Prop :=
  ∃ record, watched.state.daemon.nodes[id]? = some record ∧ record.status ≠ .unreachable

end Machine

section Silence

variable {F Bytes : Type} (codec : Codec (NodeRecord F) Bytes) (config : DaemonConfig F)

def lastMiss (period contact : Duration) : Nat :=
  contact.toNanos + config.nodeTimeout.toNanos + Duration.nanosPerSec + period.toNanos

structure Prompt (period lag : Duration) (reaping : Reaping F Bytes) : Prop where
  remembered : Remembered reaping.watched.contacts reaping.watched.state.daemon.nodes
  waited : reaping.watched.clock.toNanos ≤ reaping.due + lag.toNanos
  soon : reaping.due ≤ reaping.watched.clock.toNanos + period.toNanos
  ahead : ∀ (id : NodeId) (record : NodeRecord F) (contact : Duration),
    reaping.watched.state.daemon.nodes[id]? = some record → record.status ≠ .unreachable →
    reaping.watched.contacts[id]? = some contact → reaping.due ≤ lastMiss config period contact

variable [F64 F]

theorem watched_step_parts (watched next : Watched F Bytes) (moment : Moment F)
    (taken : watchedStep codec config watched moment = some next) :
    watched.clock.toNanos ≤ moment.instant.toNanos ∧ next.clock = moment.instant ∧ next.contacts = watched.touch moment ∧
      overlapStep codec config watched.state moment.phase = some next.state := by
  rw [watchedStep] at taken
  split at taken
  · rename_i enabled
    obtain ⟨state, stepped, rfl⟩ := Option.map_eq_some_iff.mp taken
    exact ⟨enabled.1, rfl, rfl, stepped⟩
  · cases taken

theorem in_reach_before (watched next : Watched F Bytes) (moment : Moment F) (serves : moment.phase ≠ .restart)
    (taken : watchedStep codec config watched moment = some next) (id : NodeId) (record : NodeRecord F)
    (found : next.state.daemon.nodes[id]? = some record) (reachable : record.status ≠ .unreachable)
    (quiet : moment.phase.contact watched.state.daemon.nodes ≠ some id) :
    ∃ old, watched.state.daemon.nodes[id]? = some old ∧ old.status ≠ .unreachable ∧
      ∀ now, moment.phase = .reap now → ¬ old.lastSeenUnix < saturatingSub now config.nodeTimeout.asSecs := by
  obtain ⟨_, _, _, stepped⟩ := watched_step_parts codec config watched next moment taken
  rw [serving_table codec config watched.state next.state moment.phase serves stepped id] at found
  by_cases sweeps : ∃ now, moment.phase = .reap now
  · obtain ⟨now, swept⟩ := sweeps
    rw [swept] at found ⊢
    obtain ⟨old, known, rfl⟩ := Option.map_eq_some_iff.mp found
    rw [ne_eq, reap_record_unreachable_iff, not_or] at reachable
    refine ⟨old, known, reachable.1, fun other same => ?_⟩
    cases same
    exact reachable.2
  · have change := on_row_change config moment.phase id _ record found
    have present (old : NodeRecord F) (known : watched.state.daemon.nodes[id]? = some old) :
        watched.state.daemon.nodes.contains id = true := by
      rw [Std.ExtTreeMap.contains_eq_isSome_getElem?, known]
      rfl
    generalize moment.phase = phase at change quiet sweeps ⊢
    cases change with
    | registered info now own => exact absurd (by rw [Phase.contact, own]) quiet
    | ingested report now old own known => exact absurd (by rw [Phase.contact, own, if_pos (present old known)]) quiet
    | beaten now old known => exact absurd (by rw [Phase.contact, if_pos (present old known)]) quiet
    | reaped now old known => exact absurd ⟨now, rfl⟩ sweeps
    | kept phase record known other => exact ⟨record, known, reachable, fun now swept => absurd ⟨now, swept⟩ sweeps⟩

theorem restarted_unreachable (watched next : Watched F Bytes) (moment : Moment F) (restarts : moment.phase = .restart)
    (taken : watchedStep codec config watched moment = some next) (id : NodeId) (record : NodeRecord F)
    (found : next.state.daemon.nodes[id]? = some record) : record.status = .unreachable := by
  obtain ⟨_, _, _, stepped⟩ := watched_step_parts codec config watched next moment taken
  rw [restarts] at stepped
  obtain ⟨daemon, booted, same⟩ := Option.map_eq_some_iff.mp stepped
  rw [← same] at found
  exact bootstrap_unreachable codec _ daemon ((to_option_eq_some_iff _ _).mp booted) id record found

theorem missed_soon (watched next : Watched F Bytes) (moment : Moment F) (now : UInt64) (swept : moment.phase = .reap now)
    (before : Remembered watched.contacts watched.state.daemon.nodes)
    (taken : watchedStep codec config watched moment = some next) (id : NodeId) (old : NodeRecord F) (contact : Duration)
    (known : watched.state.daemon.nodes[id]? = some old) (reachable : old.status ≠ .unreachable)
    (last : watched.contacts[id]? = some contact)
    (missed : ¬ old.lastSeenUnix < saturatingSub now config.nodeTimeout.asSecs) :
    moment.instant.toNanos ≤ contact.toNanos + config.nodeTimeout.toNanos + Duration.nanosPerSec := by
  have clock : now = nowUnix moment.instant :=
    watched_step_read codec config watched next moment taken now (by rw [swept]; rfl)
  rcases before id old known with gone | ⟨other, there, second⟩
  · exact absurd gone reachable
  · rw [last, Option.some.injEq] at there
    subst there
    rw [second, clock] at missed
    exact Nat.not_lt.mp fun late => missed (never_late config.nodeTimeout contact moment.instant late)

omit [F64 F] in
theorem reaper_period (period : Duration) (timer : reaperTimer config = some period) :
    period.toNanos = max (config.nodeTimeout.toNanos / 2) Duration.nanosPerSec := by
  rw [reaperTimer, interval] at timer
  split at timer
  · cases timer
  · cases timer
    rw [Duration.max_nanos, Duration.from_secs_nanos, Duration.div_nanos config.nodeTimeout 2 (by decide)]
    rfl

omit [F64 F] in
theorem rearm_spec (period lag : Duration) (due : Nat) (moment : Moment F) (serves : moment.phase ≠ .restart)
    (timely : ontime lag due moment = true) (soon : due ≤ moment.instant.toNanos + period.toNanos) :
    moment.instant.toNanos ≤ rearm period due moment + lag.toNanos ∧
      rearm period due moment ≤ moment.instant.toNanos + period.toNanos ∧
      ((∀ now, moment.phase ≠ .reap now) → rearm period due moment = due) := by
  obtain ⟨instant, phase⟩ := moment
  cases phase with
  | reap now =>
      simp only [ontime, Bool.and_eq_true, decide_eq_true_eq] at timely
      simp only [rearm]
      exact ⟨by omega, by omega, fun other => absurd rfl (other now)⟩
  | restart => exact absurd rfl serves
  | _ => exact ⟨of_decide_eq_true timely, soon, fun _ => rfl⟩

theorem prompt_step (period lag : Duration) (reaping next : Reaping F Bytes) (moment : Moment F)
    (before : Prompt config period lag reaping) (taken : reapingStep codec config period lag reaping moment = some next) :
    Prompt config period lag next := by
  rw [reapingStep] at taken
  split at taken
  case isFalse => cases taken
  case isTrue timely =>
  obtain ⟨watched, stepped, rfl⟩ := Option.map_eq_some_iff.mp taken
  obtain ⟨forward, clock, contacts, _⟩ := watched_step_parts codec config reaping.watched watched moment stepped
  have remembered := remembered_step codec config _ _ moment before.remembered stepped
  by_cases restarts : moment.phase = .restart
  · have due : rearm period reaping.due moment = moment.instant.toNanos := by rw [rearm, restarts]
    refine ⟨remembered, ?_, ?_, ?_⟩
    · simp only [due, clock]
      exact Nat.le_add_right _ _
    · simp only [due, clock]
      exact Nat.le_add_right _ _
    · intro id record contact found reachable
      exact absurd (restarted_unreachable codec config _ _ moment restarts stepped id record found) reachable
  · have soon := before.soon
    obtain ⟨waited, later, kept⟩ := rearm_spec period lag reaping.due moment restarts timely (by omega)
    refine ⟨remembered, by simpa only [clock] using waited, by simpa only [clock] using later, ?_⟩
    intro id record contact found reachable last
    change rearm period reaping.due moment ≤ lastMiss config period contact
    rw [contacts, touch_lookup] at last
    rw [lastMiss]
    by_cases heard : moment.phase.contact reaping.watched.state.daemon.nodes = some id
    · rw [if_pos heard, Option.some.injEq] at last
      subst last
      omega
    · rw [if_neg heard] at last
      obtain ⟨old, known, there, missed⟩ :=
        in_reach_before codec config _ _ moment restarts stepped id record found reachable heard
      by_cases sweeps : ∃ now, moment.phase = .reap now
      · obtain ⟨now, swept⟩ := sweeps
        have instant := missed_soon codec config _ _ moment now swept before.remembered stepped id old contact known there last
          (missed now swept)
        omega
      · rw [kept (not_exists.mp sweeps)]
        exact before.ahead id old contact known there last

omit [F64 F] in
theorem prompt_boot (store : Store Bytes) (start : SharedState F Bytes) (booted : bootstrap codec store = .ok start)
    (clock period lag : Duration) : Prompt config period lag ⟨⟨⟨start, []⟩, ∅, clock⟩, clock.toNanos⟩ := by
  have unheard (id : NodeId) (record : NodeRecord F) (known : start.nodes[id]? = some record) : record.status = .unreachable :=
    bootstrap_unreachable codec store start booted id record known
  exact ⟨fun id record known => Or.inl (unheard id record known), Nat.le_add_right _ _, Nat.le_add_right _ _,
    fun id record _ known there => absurd (unheard id record known) there⟩

omit [F64 F] in
theorem prompt_heard (period lag : Duration) (timer : reaperTimer config = some period) (reaping : Reaping F Bytes)
    (prompt : Prompt config period lag reaping) (id : NodeId) (record : NodeRecord F)
    (found : reaping.watched.state.daemon.nodes[id]? = some record) (reachable : record.status ≠ .unreachable) :
    ∃ contact, reaping.watched.contacts[id]? = some contact ∧ record.lastSeenUnix = nowUnix contact ∧
      reaping.watched.clock.toNanos ≤ contact.toNanos + config.nodeTimeout.toNanos +
        max (config.nodeTimeout.toNanos / 2) Duration.nanosPerSec + lag.toNanos + Duration.nanosPerSec := by
  obtain ⟨contact, last, second⟩ := (prompt.remembered id record found).resolve_left reachable
  have due := prompt.ahead id record contact found reachable last
  have waited := prompt.waited
  have every := reaper_period config period timer
  refine ⟨contact, last, second, ?_⟩
  rw [lastMiss, every] at due
  omega

-- Whatever the clients and the scheduler do, a node counts as reachable no longer than its timeout, one period of the reaper
-- and the lag of a tick, and a second for the clock's rounding, after it was last heard of.
theorem silent_node_reaped (store : Store Bytes) (start : SharedState F Bytes) (booted : bootstrap codec store = .ok start)
    (clock period lag : Duration) (timer : reaperTimer config = some period) (moments : List (Moment F))
    (finish : Reaping F Bytes)
    (ran : runFrom (reapingStep codec config period lag) ⟨⟨⟨start, []⟩, ∅, clock⟩, clock.toNanos⟩ moments = some finish)
    (id : NodeId) (record : NodeRecord F) (found : finish.watched.state.daemon.nodes[id]? = some record)
    (reachable : record.status ≠ .unreachable) :
    ∃ contact, finish.watched.contacts[id]? = some contact ∧ record.lastSeenUnix = nowUnix contact ∧
      finish.watched.clock.toNanos ≤ contact.toNanos + config.nodeTimeout.toNanos +
        max (config.nodeTimeout.toNanos / 2) Duration.nanosPerSec + lag.toNanos + Duration.nanosPerSec := by
  have prompt := run_invariant (reapingStep codec config period lag) (Prompt config period lag)
    (fun state moment next before taken => prompt_step codec config period lag state next moment before taken)
    _ finish moments (prompt_boot codec config store start booted clock period lag) ran
  exact prompt_heard config period lag timer finish prompt id record found reachable

end Silence

section Attention

variable {F Bytes : Type} [F64 F] (codec : Codec (NodeRecord F) Bytes) (config : DaemonConfig F)

theorem classify_in_reach (report : MetricsReport F) (thresholds : Thresholds F) :
    classify report thresholds ≠ .unreachable := by
  rw [classify]
  split_ifs <;> exact NodeStatus.noConfusion

-- The whole seconds of the timeout hold the cadence, or there are so many that no clock ever counts them.
def Lasts (cadence : Duration) : Prop :=
  cadence.toNanos ≤ config.nodeTimeout.secs.toNat * Duration.nanosPerSec ∨ config.nodeTimeout.secs.toNat = 2 ^ 64 - 1

omit [F64 F] in
theorem heard_in_time (cadence contact instant : Duration) (lasts : Lasts config cadence)
    (heard : instant.toNanos ≤ contact.toNanos + cadence.toNanos) :
    ¬ nowUnix contact < saturatingSub (nowUnix instant) config.nodeTimeout.asSecs := by
  rw [swept_iff]
  cases lasts with
  | inl short =>
      simp only [Duration.nanosPerSec] at short ⊢
      omega
  | inr longest =>
      have reading := Duration.as_secs_floor instant
      have bound := instant.asSecs.toNat_lt
      rw [longest, ← reading]
      simp only [Duration.nanosPerSec]
      omega

theorem attentive_step (id : NodeId) (cadence : Duration) (lasts : Lasts config cadence) (watched next : Watched F Bytes)
    (moment : Moment F) (remembered : Remembered watched.contacts watched.state.daemon.nodes) (reach : InReach id watched)
    (attentive : Attentive id cadence watched moment) (taken : watchedStep codec config watched moment = some next) :
    InReach id next := by
  obtain ⟨record, known, up⟩ := reach
  obtain ⟨_, _, _, stepped⟩ := watched_step_parts codec config watched next moment taken
  have read := watched_step_read codec config watched next moment taken
  have row := serving_table codec config watched.state next.state moment.phase attentive.serves stepped id
  rw [known] at row
  obtain ⟨instant, phase⟩ := moment
  obtain ⟨contact, last, second⟩ := (remembered id record known).resolve_left up
  have heard := attentive.heard contact last
  cases phase with
  | update call =>
      cases call with
      | register info now =>
          by_cases own : info.nodeId = id
          · exact ⟨_, row.trans (if_pos own), NodeStatus.noConfusion⟩
          · exact ⟨record, row.trans (if_neg own), up⟩
      | ingest report now =>
          by_cases own : report.nodeId = id
          · exact ⟨_, row.trans (if_pos own), classify_in_reach report config.thresholds⟩
          · exact ⟨record, row.trans (if_neg own), up⟩
      | deregister nodeId =>
          have other : ¬ nodeId = id := fun own => attentive.stays (by rw [own])
          exact ⟨record, row.trans (if_neg other), up⟩
  | heartbeat nodeId now =>
      by_cases own : nodeId = id
      · refine ⟨_, row.trans (congrArg some (if_pos own)), ?_⟩
        rw [if_neg up]
        exact up
      · exact ⟨record, row.trans (congrArg some (if_neg own)), up⟩
  | reap now =>
      refine ⟨_, row, ?_⟩
      rw [ne_eq, reap_record_unreachable_iff, second, read now rfl]
      rintro (gone | stale)
      · exact up gone
      · exact heard_in_time config cadence contact instant lasts heard stale
  | restart => exact absurd rfl attentive.serves
  | _ => exact ⟨record, row, up⟩

def CadenceSuffices (id : NodeId) (cadence : Duration) : Prop :=
  ∀ (store : Store Bytes) (start : SharedState F Bytes) (clock : Duration) (moments later : List (Moment F))
    (watched : Watched F Bytes), bootstrap codec store = .ok start →
    runFrom (watchedStep codec config) ⟨⟨start, []⟩, ∅, clock⟩ moments = some watched → InReach id watched →
    Obeys (watchedStep codec config) (Attentive id cadence) watched later →
    Throughout (watchedStep codec config) (InReach id) watched later

theorem cadence_suffices (id : NodeId) (cadence : Duration) (lasts : Lasts config cadence) :
    CadenceSuffices codec config id cadence := by
  intro store start clock moments later watched booted ran reach attentive
  have initial : Remembered ∅ start.nodes :=
    fun id record found => Or.inl (bootstrap_unreachable codec store start booted id record found)
  have remembered := run_invariant (watchedStep codec config)
    (fun watched => Remembered watched.contacts watched.state.daemon.nodes)
    (fun watched moment next before taken => remembered_step codec config watched next moment before taken)
    _ watched moments initial ran
  have always := throughout_of_obeys (watchedStep codec config)
    (fun watched => Remembered watched.contacts watched.state.daemon.nodes ∧ InReach id watched) (Attentive id cadence)
    (fun watched moment next before rule taken =>
      ⟨remembered_step codec config watched next moment before.1 taken,
        attentive_step codec config id cadence lasts watched next moment before.1 before.2 rule taken⟩)
    watched later ⟨remembered, reach⟩ attentive
  exact throughout_mono (watchedStep codec config) (InReach id) _ (fun _ both => both.2) watched later always

def freshlyRegistered (info : NodeInfo) (clock : Duration) : Watched F Bytes :=
  let record : NodeRecord F := ⟨info, .registered, nowUnix clock, none⟩
  ⟨⟨⟨(∅ : NodeTable F).insert info.nodeId record, ∅, Store.fresh⟩, [.put record]⟩,
    (∅ : StrMap Duration).insert info.nodeId clock, clock⟩

theorem freshly_registered (info : NodeInfo) (clock : Duration) :
    watchedStep codec config ⟨⟨⟨∅, ∅, Store.fresh⟩, []⟩, ∅, clock⟩ ⟨clock, .update (.register info (nowUnix clock))⟩ =
      some (freshlyRegistered info clock) := by
  rw [watchedStep, if_pos ⟨Nat.le_refl _, fun now read => (Option.some.inj read).symm⟩]
  rfl

theorem reaping_run_cons (period lag : Duration) (reaping finish : Reaping F Bytes) (moment : Moment F)
    (moments : List (Moment F)) (state : Overlapped F Bytes) (timely : ontime lag reaping.due moment = true)
    (forward : reaping.watched.clock.toNanos ≤ moment.instant.toNanos)
    (read : moment.phase.reading.all (fun now => now == nowUnix moment.instant) = true)
    (stepped : overlapStep codec config reaping.watched.state moment.phase = some state)
    (rest : runFrom (reapingStep codec config period lag)
      ⟨⟨state, reaping.watched.touch moment, moment.instant⟩, rearm period reaping.due moment⟩ moments = some finish) :
    runFrom (reapingStep codec config period lag) reaping (moment :: moments) = some finish := by
  have reads : ∀ now ∈ moment.phase.reading, now = nowUnix moment.instant := by
    intro now member
    rw [member, Option.all_some] at read
    exact eq_of_beq read
  apply (run_cons _ _ _ _ _).mpr
  refine ⟨_, ?_, rest⟩
  rw [reapingStep, if_pos timely, watchedStep, if_pos ⟨forward, reads⟩, stepped]
  rfl

theorem registered_at_start (period lag : Duration) (info : NodeInfo) (clock : Duration) :
    runFrom (reapingStep codec config period lag) ⟨⟨⟨⟨∅, ∅, Store.fresh⟩, []⟩, ∅, clock⟩, clock.toNanos⟩
      [⟨clock, .update (.register info (nowUnix clock))⟩] = some ⟨freshlyRegistered info clock, clock.toNanos⟩ := by
  have timely : ontime lag clock.toNanos ⟨clock, .update (.register (F := F) info (nowUnix clock))⟩ = true :=
    decide_eq_true (Nat.le_add_right _ _)
  simp only [runFrom, reapingStep, timely, freshly_registered, if_true, Option.map_some, Option.bind_some, rearm]

omit [F64 F] in
theorem freshly_known (info : NodeInfo) (clock : Duration) (watched : Watched F Bytes)
    (fresh : watched = freshlyRegistered info clock) :
    watched.state.daemon.nodes[info.nodeId]? = some ⟨info, .registered, nowUnix clock, none⟩ := by
  rw [fresh]
  exact (lookup_insert _ _ _ _).trans (if_pos rfl)

omit [F64 F] in
theorem freshly_attentive (info : NodeInfo) (cadence clock instant : Duration) (watched : Watched F Bytes)
    (fresh : watched = freshlyRegistered info clock) (heard : instant.toNanos ≤ clock.toNanos + cadence.toNanos) :
    Attentive info.nodeId cadence watched ⟨instant, .reap (nowUnix instant)⟩ := by
  refine ⟨(by intro same; cases same), (by intro same; cases same), ?_⟩
  intro contact last
  have touched : watched.contacts[info.nodeId]? = some clock := by
    rw [fresh]
    exact (lookup_insert _ _ _ _).trans (if_pos rfl)
  cases touched.symm.trans last
  exact heard

theorem in_reach_heard (watched swept : Watched F Bytes) (instant : Duration) (id : NodeId) (record : NodeRecord F)
    (known : watched.state.daemon.nodes[id]? = some record)
    (taken : watchedStep codec config watched ⟨instant, .reap (nowUnix instant)⟩ = some swept) (reach : InReach id swept) :
    ¬ record.lastSeenUnix < saturatingSub (nowUnix instant) config.nodeTimeout.asSecs := by
  obtain ⟨found, present, up⟩ := reach
  obtain ⟨old, before, _, heard⟩ := in_reach_before codec config watched swept ⟨instant, .reap (nowUnix instant)⟩
    (by intro same; cases same) taken id found present up (by intro same; cases same)
  cases known.symm.trans before
  exact heard _ rfl

-- Heard of at the end of a second, and swept at the first turn of the second that the timeout does not cover.
theorem longer_cadence_fails (info : NodeInfo) (cadence : Duration) (fails : ¬ Lasts config cadence) :
    ¬ CadenceSuffices codec config info.nodeId cadence := by
  intro suffices_
  obtain ⟨longer, room⟩ := not_or.mp fails
  let tick := Duration.fromSecs (config.nodeTimeout.secs + 1)
  have later : tick.toNanos = (config.nodeTimeout.secs.toNat + 1) * Duration.nanosPerSec := by
    have bound := config.nodeTimeout.secs.toNat_lt
    rw [Duration.from_secs_nanos, UInt64.toNat_add, UInt64.toNat_one, Nat.mod_eq_of_lt (by omega)]
  have first : lastOfSecond.toNanos = 999999999 := rfl
  have forward : lastOfSecond.toNanos ≤ tick.toNanos := by
    rw [first, later]
    simp only [Duration.nanosPerSec]
    omega
  have heard : tick.toNanos ≤ lastOfSecond.toNanos + cadence.toNanos := by
    rw [first, later]
    simp only [Duration.nanosPerSec] at longer ⊢
    omega
  have stale : nowUnix lastOfSecond < saturatingSub (nowUnix tick) config.nodeTimeout.asSecs := by
    rw [swept_iff, first, later]
    simp only [Duration.nanosPerSec]
    omega
  let registered : Watched F Bytes := freshlyRegistered info lastOfSecond
  have known := freshly_known info lastOfSecond registered rfl
  have ran : runFrom (watchedStep codec config) ⟨⟨⟨∅, ∅, Store.fresh⟩, []⟩, ∅, lastOfSecond⟩
      [⟨lastOfSecond, .update (.register info (nowUnix lastOfSecond))⟩] = some registered := by
    simp only [runFrom, freshly_registered, Option.bind_some]
    rfl
  obtain ⟨swept, taken⟩ := sweep_enabled codec config registered tick forward
  have always := suffices_ Store.fresh ⟨∅, ∅, Store.fresh⟩ lastOfSecond _ [⟨tick, .reap (nowUnix tick)⟩] registered rfl ran
    ⟨_, known, NodeStatus.noConfusion⟩
    (fun next _ => ⟨freshly_attentive info cadence lastOfSecond tick registered rfl heard, trivial⟩)
  exact in_reach_heard codec config registered swept tick info.nodeId _ known taken (always.2 swept taken) stale

theorem cadence_suffices_iff (cadence : Duration) :
    (∀ id, CadenceSuffices codec config id cadence) ↔ Lasts config cadence := by
  apply Iff.intro
  · intro suffices_
    by_contra fails
    exact longer_cadence_fails codec config (sampleInfo "n1") cadence fails (suffices_ _)
  · intro lasts id
    exact cadence_suffices codec config id cadence lasts

end Attention

section Told

variable {F : Type} [F64Text F]

-- The interval that the daemon sends is its own in whole seconds, and one second if that is none, as far as 32 bits hold it.
def toldSeconds (config : DaemonConfig F) : Nat := max config.metricsInterval.secs.toNat 1 % 2 ^ 32

omit [F64Text F] in
theorem told_interval {Bytes : Type} (codec : Codec (NodeRecord F) Bytes) (config : DaemonConfig F) (booted : UInt64)
    (txn : Txn) (request : Wire.Pb.NodeInfo) (now : UInt64) (state next : SharedState F Bytes) (agent : AgentConfig)
    (ack : RegisterAck) (sent : Grpc.registerNode codec (Instance.boot config booted) txn request now state = (.ok ack, next)) :
    (toldSeconds config = 0 → metricsInterval agent ack = agent.metricsInterval) ∧
      (toldSeconds config ≠ 0 → (metricsInterval agent ack).toNanos = toldSeconds config * Duration.nanosPerSec) := by
  have seconds : ack.metricsIntervalSecs.toNat = toldSeconds config := by
    rw [register_ack_interval codec _ txn request now state next ack sent, boot_interval, toldSeconds]
    change (if config.metricsInterval.secs ≤ 1 then 1 else config.metricsInterval.secs).toNat % 2 ^ 32 = _
    rw [Nat.max_def, apply_ite UInt64.toNat]
    rfl
  have directed : ack.metricsIntervalSecs > 0 ↔ toldSeconds config ≠ 0 := by
    rw [gt_iff_lt, UInt32.lt_iff_toNat_lt, seconds]
    exact Nat.pos_iff_ne_zero
  apply And.intro
  · intro none
    rw [metricsInterval, if_neg (mt directed.mp (not_not.mpr none))]
  · intro told
    rw [metricsInterval, if_pos (directed.mpr told), Duration.from_secs_nanos, UInt32.toNat_toUInt64, seconds]

-- An agent that reports as often as the daemon tells it to is never taken for silent, whatever its own configuration says,
-- exactly where the timeout that the daemon has checked against its interval is a second or more. An interval that 32 bits
-- make zero tells the agent nothing, and then it takes an interval of its own that the timeout holds.
theorem told_cadence_iff {Bytes : Type} (codec : Codec (NodeRecord F) Bytes) (config : DaemonConfig F)
    (accepted : config.validate = .ok ()) (booted : UInt64) (txn : Txn) (request : Wire.Pb.NodeInfo) (now : UInt64)
    (state next : SharedState F Bytes) (agent : AgentConfig) (ack : RegisterAck)
    (sent : Grpc.registerNode codec (Instance.boot config booted) txn request now state = (.ok ack, next)) :
    (∀ id, CadenceSuffices codec config id (metricsInterval agent ack)) ↔
      if toldSeconds config = 0 then Lasts config agent.metricsInterval else 1 ≤ config.nodeTimeout.secs.toNat := by
  obtain ⟨untold, told⟩ := told_interval codec config booted txn request now state next agent ack sent
  have ordered : config.metricsInterval.toNanos ≤ config.nodeTimeout.toNanos := by
    rw [DaemonConfig.validate] at accepted
    split at accepted
    · cases accepted
    · rename_i longer
      exact Nat.not_lt.mp fun shorter => longer ((Duration.less_iff _ _).mpr shorter)
  have carried := config.nodeTimeout.carried
  have bound := Nat.mod_le (max config.metricsInterval.secs.toNat 1) (2 ^ 32)
  simp only [Duration.toNanos, Duration.nanosPerSec] at ordered
  rw [cadence_suffices_iff]
  by_cases none : toldSeconds config = 0
  · rw [if_pos none, untold none]
  · have second := told none
    rw [if_neg none, Lasts, second]
    rw [toldSeconds] at none ⊢
    simp only [Duration.nanosPerSec]
    omega

end Told

section Samples

-- Two nodes register one after the other and are never heard of again; the tick in between is half a second late.
def silentMoments : List (Moment ℚ) :=
  [⟨.fromSecs 1000, .update (.register (sampleInfo "n2") 1000)⟩, ⟨.fromSecs 1000, .reap 1000⟩, ⟨.fromSecs 1015, .reap 1015⟩,
    ⟨.fromSecs 1020, .update (.register (sampleInfo "n1") 1020)⟩, ⟨⟨1030, 500000000, by decide⟩, .reap 1030⟩,
    ⟨.fromSecs 1045, .reap 1045⟩]

theorem silent_moments_run (codec : Codec (NodeRecord ℚ) (Json ℚ)) :
    ∃ finish, runFrom (reapingStep codec rationalConfig (.fromSecs 15) (.fromSecs 1))
        ⟨⟨⟨⟨∅, ∅, Store.fresh⟩, []⟩, ∅, .fromSecs 1000⟩, (Duration.fromSecs 1000).toNanos⟩ silentMoments = some finish ∧
      finish.watched.state.daemon.nodes["n2"]? = some ⟨sampleInfo "n2", .unreachable, 1000, none⟩ ∧
      finish.watched.state.daemon.nodes["n1"]? = some ⟨sampleInfo "n1", .registered, 1020, none⟩ := by
  refine ⟨_, reaping_run_cons codec _ _ _ _ _ _ _ _ ?_ ?_ ?_ rfl <| reaping_run_cons codec _ _ _ _ _ _ _ _ ?_ ?_ ?_ rfl <|
    reaping_run_cons codec _ _ _ _ _ _ _ _ ?_ ?_ ?_ rfl <| reaping_run_cons codec _ _ _ _ _ _ _ _ ?_ ?_ ?_ rfl <|
    reaping_run_cons codec _ _ _ _ _ _ _ _ ?_ ?_ ?_ rfl <| reaping_run_cons codec _ _ _ _ _ _ _ _ ?_ ?_ ?_ rfl rfl, ?_, ?_⟩
  all_goals decide +kernel

-- The last sweep has taken the node that came first, and the other one is within the bound.
theorem registered_node_reaped :
    ∃ finish contact, runFrom (reapingStep (jsonCodec rationalSerde) rationalConfig (.fromSecs 15) (.fromSecs 1))
        ⟨⟨⟨⟨∅, ∅, Store.fresh⟩, []⟩, ∅, .fromSecs 1000⟩, (Duration.fromSecs 1000).toNanos⟩ silentMoments = some finish ∧
      finish.watched.state.daemon.nodes["n2"]? = some ⟨sampleInfo "n2", .unreachable, 1000, none⟩ ∧
      finish.watched.contacts["n1"]? = some contact ∧ 1020 = nowUnix contact ∧
      finish.watched.clock.toNanos ≤ contact.toNanos + rationalConfig.nodeTimeout.toNanos +
        max (rationalConfig.nodeTimeout.toNanos / 2) Duration.nanosPerSec + (Duration.fromSecs 1).toNanos +
          Duration.nanosPerSec := by
  obtain ⟨finish, ran, lost, kept⟩ := silent_moments_run (jsonCodec rationalSerde)
  obtain ⟨contact, last, second, bound⟩ := silent_node_reaped (jsonCodec rationalSerde) rationalConfig Store.fresh
    ⟨∅, ∅, Store.fresh⟩ rfl (.fromSecs 1000) (.fromSecs 15) (.fromSecs 1) rfl silentMoments finish ran "n1" _ kept
    NodeStatus.noConfusion
  exact ⟨finish, contact, ran, lost, last, second, bound⟩

theorem told_cadence_plain :
    (∀ id, CadenceSuffices plainCodec rationalConfig id (metricsInterval ⟨.fromSecs 10, .fromSecs 0⟩ plainAck)) ↔
      if toldSeconds rationalConfig = 0 then Lasts rationalConfig (.fromSecs 0)
      else 1 ≤ rationalConfig.nodeTimeout.secs.toNat :=
  told_cadence_iff plainCodec rationalConfig rational_config_accepted 1000 .commits plainRequest 1001 plainState registeredState
    ⟨.fromSecs 10, .fromSecs 0⟩ plainAck rfl

end Samples

end Hpc.Plane
