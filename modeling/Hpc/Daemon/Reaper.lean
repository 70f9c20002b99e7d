import Hpc.Core.Duration
import Hpc.Daemon.Overlap

set_option autoImplicit false

namespace Hpc.Daemon

open Hpc.Core Hpc.Lib

-- Real time, as the span since the epoch; now_unix is what of it the daemon reads.
def nowUnix (instant : Duration) : UInt64 := instant.asSecs

structure Moment (F : Type) where
  instant : Duration
  phase : Phase F

structure Watched (F Bytes : Type) where
  state : Overlapped F Bytes
  contacts : StrMap Duration
  clock : Duration

section Machine

variable {F Bytes : Type} [F64 F] (codec : Codec (NodeRecord F) Bytes) (config : DaemonConfig F)

def Phase.reading : Phase F → Option UInt64
  | .update (.register _ now) => some now
  | .update (.ingest _ now) => some now
  | .heartbeat _ now => some now
  | .reap now => some now
  | _ => none

def Phase.contact (nodes : NodeTable F) : Phase F → Option NodeId
  | .update (.register info _) => some info.nodeId
  | .update (.ingest report _) => if nodes.contains report.nodeId then some report.nodeId else none
  | .heartbeat nodeId _ => if nodes.contains nodeId then some nodeId else none
  | _ => none

def Watched.touch (watched : Watched F Bytes) (moment : Moment F) : StrMap Duration :=
  (moment.phase.contact watched.state.daemon.nodes).elim watched.contacts fun id =>
    watched.contacts.insert id moment.instant

-- Time never goes back, and every operation reads the clock at its own instant.
def watchedStep (watched : Watched F Bytes) (moment : Moment F) : Option (Watched F Bytes) :=
  if watched.clock.toNanos ≤ moment.instant.toNanos ∧ ∀ now ∈ moment.phase.reading, now = nowUnix moment.instant then
    (overlapStep codec config watched.state moment.phase).map fun next => ⟨next, watched.touch moment, moment.instant⟩
  else none

-- A sweep is neither early nor late for any node: within the timeout after the last contact it marks nothing, and more than a
-- second after the timeout it leaves the node unreachable.
def Punctual (watched : Watched F Bytes) (moment : Moment F) : Prop :=
  ∀ now, moment.phase = .reap now → ∀ (id : NodeId) (record after : NodeRecord F) (contact : Duration),
    watched.state.daemon.nodes[id]? = some record → watched.contacts[id]? = some contact →
    (reapStale config.nodeTimeout.asSecs now watched.state.daemon).2.nodes[id]? = some after →
    (moment.instant.toNanos ≤ contact.toNanos + config.nodeTimeout.toNanos → record.status ≠ .unreachable →
        after.status ≠ .unreachable) ∧
      (contact.toNanos + config.nodeTimeout.toNanos + Duration.nanosPerSec < moment.instant.toNanos →
        after.status = .unreachable)

-- What the table remembers of the last contacts: of every node that still counts as reachable, the second.
def Remembered (contacts : StrMap Duration) (nodes : NodeTable F) : Prop :=
  Rowwise (fun (id : NodeId) (record : NodeRecord F) => record.status = .unreachable ∨
    ∃ contact, contacts[id]? = some contact ∧ record.lastSeenUnix = nowUnix contact) nodes

end Machine

section Arithmetic

theorem less_saturating_sub (a b c : UInt64) : a < saturatingSub b c ↔ a.toNat + c.toNat < b.toNat := by
  rw [UInt64.lt_iff_toNat_lt, saturating_sub_nat]
  omega

-- The timeout loses nothing when it is read in seconds, or is so long that no sweep ever counts down to it.
def WholeSeconds (timeout : Duration) : Prop := timeout.nanos = 0 ∨ timeout.secs = 18446744073709551615

-- Of a node last heard of at the contact, the sweep decides by whole seconds.
theorem swept_iff (timeout contact instant : Duration) :
    nowUnix contact < saturatingSub (nowUnix instant) timeout.asSecs ↔
      contact.toNanos / Duration.nanosPerSec + timeout.secs.toNat < instant.toNanos / Duration.nanosPerSec := by
  rw [less_saturating_sub, nowUnix, nowUnix, Duration.as_secs_floor contact, Duration.as_secs_floor instant]
  rfl

theorem never_late (timeout contact instant : Duration)
    (late : contact.toNanos + timeout.toNanos + Duration.nanosPerSec < instant.toNanos) :
    nowUnix contact < saturatingSub (nowUnix instant) timeout.asSecs := by
  rw [swept_iff]
  simp only [Duration.toNanos, Duration.nanosPerSec] at late ⊢
  omega

theorem never_early (timeout contact instant : Duration) (whole : WholeSeconds timeout)
    (early : instant.toNanos ≤ contact.toNanos + timeout.toNanos) :
    ¬ nowUnix contact < saturatingSub (nowUnix instant) timeout.asSecs := by
  have reading := Duration.as_secs_floor instant
  have bound := instant.asSecs.toNat_lt
  rw [swept_iff]
  rcases whole with none | longest
  · simp only [Duration.toNanos, Duration.nanosPerSec, none] at early ⊢
    have zero : (0 : UInt32).toNat = 0 := rfl
    omega
  · rw [longest, ← reading]
    have most : (18446744073709551615 : UInt64).toNat = 18446744073709551615 := rfl
    simp only [Duration.nanosPerSec]
    omega

def lastOfSecond : Duration := ⟨0, 999999999, by decide⟩

def timeoutLater (timeout : Duration) : Duration := Duration.ofParts (timeout.secs + 1) (timeout.nanos.toNat - 1)

theorem timeout_later_spec (timeout : Duration) (fractional : ¬ WholeSeconds timeout) :
    (timeoutLater timeout).toNanos = lastOfSecond.toNanos + timeout.toNanos ∧
      nowUnix lastOfSecond < saturatingSub (nowUnix (timeoutLater timeout)) timeout.asSecs := by
  obtain ⟨part, short⟩ := not_or.mp fractional
  have carried := timeout.carried
  have some : timeout.nanos.toNat ≠ 0 := fun none => part (UInt32.toNat_inj.mp none)
  have room : timeout.secs.toNat ≠ 18446744073709551615 := fun longest => short (UInt64.toNat_inj.mp longest)
  have next : (timeout.secs + 1).toNat = timeout.secs.toNat + 1 := by
    have bound := timeout.secs.toNat_lt
    have one : (1 : UInt64).toNat = 1 := rfl
    rw [UInt64.toNat_add, one]
    omega
  have first : lastOfSecond.toNanos = 999999999 := rfl
  have later : (timeoutLater timeout).toNanos = 999999999 + timeout.toNanos := by
    rw [timeoutLater, Duration.of_parts_nanos, next]
    simp only [Duration.toNanos, Duration.nanosPerSec]
    omega
  apply And.intro (by rw [later, first])
  rw [swept_iff, later, first]
  simp only [Duration.toNanos, Duration.nanosPerSec]
  omega

end Arithmetic

section Memory

variable {F Bytes : Type} (codec : Codec (NodeRecord F) Bytes) (config : DaemonConfig F)

theorem touch_lookup (watched : Watched F Bytes) (moment : Moment F) (id : NodeId) :
    (watched.touch moment)[id]? =
      if moment.phase.contact watched.state.daemon.nodes = some id then some moment.instant else watched.contacts[id]? := by
  rw [Watched.touch]
  cases moment.phase.contact watched.state.daemon.nodes with
  | none => simp
  | some other => simp only [Option.elim_some, lookup_insert, Option.some.injEq]

theorem reap_record_unreachable_iff (cutoff : UInt64) (record : NodeRecord F) :
    (reapRecord cutoff record).status = .unreachable ↔ record.status = .unreachable ∨ record.lastSeenUnix < cutoff := by
  by_cases gone : record.status = .unreachable <;> by_cases stale : record.lastSeenUnix < cutoff <;>
    simp [reapRecord, gone, stale]

theorem contact_subject (phase : Phase F) (nodes : NodeTable F) (id : NodeId) (contacted : phase.contact nodes = some id) :
    phase.subject = some id := by
  cases phase with
  | update call =>
      cases call with
      | register info now => exact contacted
      | deregister nodeId => cases contacted
      | ingest report now =>
          rw [Phase.contact] at contacted
          split at contacted
          · exact contacted
          · cases contacted
  | heartbeat nodeId now =>
      rw [Phase.contact] at contacted
      split at contacted
      · exact contacted
      · cases contacted
  | _ => cases contacted

variable [F64 F]

theorem remembered_serving (watched : Watched F Bytes) (moment : Moment F) (state : Overlapped F Bytes)
    (before : Remembered watched.contacts watched.state.daemon.nodes) (serves : moment.phase ≠ .restart)
    (read : ∀ now ∈ moment.phase.reading, now = nowUnix moment.instant)
    (stepped : overlapStep codec config watched.state moment.phase = some state) :
    Remembered (watched.touch moment) state.daemon.nodes := by
  intro id record found
  rw [serving_table codec config watched.state state moment.phase serves stepped id] at found
  have change := on_row_change config moment.phase id _ record found
  rw [touch_lookup]
  have present (old : NodeRecord F) (known : watched.state.daemon.nodes[id]? = some old) :
      watched.state.daemon.nodes.contains id = true := by
    rw [Std.ExtTreeMap.contains_eq_isSome_getElem?, known]
    rfl
  generalize moment.phase = phase at change read
  cases change with
  | registered info now own =>
      rw [Phase.contact, own, if_pos rfl]
      exact Or.inr ⟨moment.instant, rfl, read now rfl⟩
  | ingested report now old own known =>
      rw [Phase.contact, own, if_pos (present old known), if_pos rfl]
      exact Or.inr ⟨moment.instant, rfl, read now rfl⟩
  | beaten now old known =>
      rw [Phase.contact, if_pos (present old known), if_pos rfl]
      exact Or.inr ⟨moment.instant, rfl, read now rfl⟩
  | reaped now old known =>
      obtain ⟨_, seen, _⟩ := reap_record_fields (saturatingSub now config.nodeTimeout.asSecs) old
      rcases reap_record_status (saturatingSub now config.nodeTimeout.asSecs) old with same | swept
      · rw [same, seen]
        exact before id old known
      · exact Or.inl swept
  | kept phase record known other =>
      rw [if_neg fun contacted => other (contact_subject phase _ id contacted)]
      exact before id record known

theorem remembered_step (watched next : Watched F Bytes) (moment : Moment F)
    (before : Remembered watched.contacts watched.state.daemon.nodes)
    (taken : watchedStep codec config watched moment = some next) :
    Remembered next.contacts next.state.daemon.nodes := by
  rw [watchedStep] at taken
  split at taken
  · rename_i enabled
    obtain ⟨state, stepped, rfl⟩ := Option.map_eq_some_iff.mp taken
    change Remembered (watched.touch moment) state.daemon.nodes
    by_cases restarts : moment.phase = .restart
    · rw [restarts] at stepped
      obtain ⟨daemon, booted, rfl⟩ := Option.map_eq_some_iff.mp stepped
      intro id record found
      exact Or.inl (bootstrap_unreachable codec _ daemon ((to_option_eq_some_iff _ _).mp booted) id record found)
    · exact remembered_serving codec config watched moment state before restarts enabled.2 stepped
  · cases taken

end Memory

section Punctuality

variable {F Bytes : Type} (codec : Codec (NodeRecord F) Bytes) (config : DaemonConfig F)

theorem punctual_of_whole (watched : Watched F Bytes) (moment : Moment F)
    (whole : WholeSeconds config.nodeTimeout) (remembered : Remembered watched.contacts watched.state.daemon.nodes)
    (read : ∀ now ∈ moment.phase.reading, now = nowUnix moment.instant) : Punctual config watched moment := by
  intro now swept id record after contact found touched left
  have clock : now = nowUnix moment.instant := read now (by rw [swept]; rfl)
  have reaped : after = reapRecord (saturatingSub now config.nodeTimeout.asSecs) record := by
    have looked := reap_table_lookup config.nodeTimeout.asSecs now watched.state.daemon.nodes id
    rw [found, Option.map_some] at looked
    exact Option.some.inj (left.symm.trans looked)
  have seen : record.status = .unreachable ∨ record.lastSeenUnix = nowUnix contact := by
    rcases remembered id record found with gone | ⟨last, known, second⟩
    · exact Or.inl gone
    · rw [touched, Option.some.injEq] at known
      exact Or.inr (known ▸ second)
  simp only [reaped, clock, ne_eq, reap_record_unreachable_iff]
  apply And.intro
  · intro early reachable
    rcases seen with gone | second
    · exact absurd gone reachable
    · rw [second]
      rintro (gone | stale)
      · exact reachable gone
      · exact never_early config.nodeTimeout contact moment.instant whole early stale
  · intro late
    rcases seen with gone | second
    · exact Or.inl gone
    · rw [second]
      exact Or.inr (never_late config.nodeTimeout contact moment.instant late)

variable [F64 F]

theorem watched_step_read (watched next : Watched F Bytes) (moment : Moment F)
    (taken : watchedStep codec config watched moment = some next) :
    ∀ now ∈ moment.phase.reading, now = nowUnix moment.instant := by
  rw [watchedStep] at taken
  split at taken
  · rename_i enabled
    exact enabled.2
  · cases taken

theorem sweep_enabled (watched : Watched F Bytes) (instant : Duration) (forward : watched.clock.toNanos ≤ instant.toNanos) :
    ∃ swept, watchedStep codec config watched ⟨instant, .reap (nowUnix instant)⟩ = some swept := by
  rw [watchedStep, if_pos ⟨forward, fun now read => (Option.some.inj read).symm⟩]
  exact ⟨_, rfl⟩

-- A node registered into an empty table, and swept within the timeout but over enough turns of the second.
theorem early_sweep (contact instant : Duration) (forward : contact.toNanos ≤ instant.toNanos)
    (early : instant.toNanos ≤ contact.toNanos + config.nodeTimeout.toNanos)
    (stale : nowUnix contact < saturatingSub (nowUnix instant) config.nodeTimeout.asSecs) :
    ¬ Obeys (watchedStep codec config) (Punctual config) ⟨⟨⟨∅, ∅, Store.fresh⟩, []⟩, ∅, contact⟩
      [⟨contact, .update (.register (sampleInfo "n1") (nowUnix contact))⟩, ⟨instant, .reap (nowUnix instant)⟩] := by
  intro obeys
  let record : NodeRecord F := ⟨sampleInfo "n1", .registered, nowUnix contact, none⟩
  let registered : Watched F Bytes := ⟨⟨⟨(∅ : NodeTable F).insert "n1" record, ∅, Store.fresh⟩, [.put record]⟩,
    (∅ : StrMap Duration).insert "n1" contact, contact⟩
  have first : watchedStep codec config ⟨⟨⟨∅, ∅, Store.fresh⟩, []⟩, ∅, contact⟩
      ⟨contact, .update (.register (sampleInfo "n1") (nowUnix contact))⟩ = some registered := by
    rw [watchedStep]
    rw [if_pos ⟨Nat.le_refl _, fun now read => (Option.some.inj read).symm⟩]
    rfl
  obtain ⟨_, later⟩ := obeys registered first
  obtain ⟨last, second⟩ := sweep_enabled codec config registered instant forward
  obtain ⟨punctual, _⟩ := later last second
  have swept : (reapStale config.nodeTimeout.asSecs (nowUnix instant) registered.state.daemon).2.nodes["n1"]? =
      some (reapRecord (saturatingSub (nowUnix instant) config.nodeTimeout.asSecs) record) := by
    refine (reap_table_lookup _ _ _ _).trans ?_
    rw [lookup_insert, if_pos rfl, Option.map_some]
  have reachable : record.status ≠ .unreachable := NodeStatus.noConfusion
  have kept := (punctual _ rfl "n1" record _ contact (by rw [lookup_insert, if_pos rfl])
    (by rw [lookup_insert, if_pos rfl]) swept).1 early reachable
  exact kept ((reap_record_unreachable_iff _ record).mpr (Or.inr stale))

theorem reaper_punctual_iff :
    (∀ (store : Store Bytes) (start : SharedState F Bytes) (clock : Duration) (moments : List (Moment F)),
        bootstrap codec store = .ok start →
        Obeys (watchedStep codec config) (Punctual config) ⟨⟨start, []⟩, ∅, clock⟩ moments) ↔
      WholeSeconds config.nodeTimeout := by
  apply Iff.intro
  · intro punctual
    by_contra fractional
    obtain ⟨exactly, stale⟩ := timeout_later_spec config.nodeTimeout fractional
    have forward : lastOfSecond.toNanos ≤ (timeoutLater config.nodeTimeout).toNanos := by
      rw [exactly]
      exact Nat.le_add_right _ _
    exact early_sweep codec config lastOfSecond (timeoutLater config.nodeTimeout) forward (Nat.le_of_eq exactly) stale
      (punctual Store.fresh _ _ _ rfl)
  · intro whole store start clock moments booted
    have initial : Remembered ∅ start.nodes :=
      fun id record found => Or.inl (bootstrap_unreachable codec store start booted id record found)
    have always := throughout_invariant (watchedStep codec config)
      (fun watched => Remembered watched.contacts watched.state.daemon.nodes)
      (fun watched moment next before taken => remembered_step codec config watched next moment before taken)
      ⟨⟨start, []⟩, ∅, clock⟩ moments initial
    exact obeys_of_throughout (watchedStep codec config)
      (fun watched => Remembered watched.contacts watched.state.daemon.nodes) (Punctual config)
      (fun watched moment next remembered taken => punctual_of_whole config watched moment whole remembered
        (watched_step_read codec config watched next moment taken)) _ moments always

-- A timeout of 30.9 s: heard of at 1000.9 s, swept at 1031 s.
def fractionalConfig : DaemonConfig ℚ := ⟨⟨30, 900000000, by decide⟩, .fromSecs 10, ⟨9 / 10, 9 / 10, 9 / 10, 2⟩⟩

theorem swept_within_timeout :
    fractionalConfig.validate = .ok () ∧
      bootstrap (jsonCodec rationalSerde) Store.fresh = .ok ⟨∅, ∅, Store.fresh⟩ ∧
      ¬ Obeys (watchedStep (jsonCodec rationalSerde) fractionalConfig) (Punctual fractionalConfig)
        ⟨⟨⟨∅, ∅, Store.fresh⟩, []⟩, ∅, ⟨1000, 900000000, by decide⟩⟩
        [⟨⟨1000, 900000000, by decide⟩, .update (.register (sampleInfo "n1") 1000)⟩,
          ⟨.fromSecs 1031, .reap 1031⟩] := by
  refine ⟨by decide +kernel, rfl, ?_⟩
  exact early_sweep (jsonCodec rationalSerde) fractionalConfig ⟨1000, 900000000, by decide⟩ (.fromSecs 1031)
    (by decide) (by decide) (by decide)

end Punctuality

end Hpc.Daemon
