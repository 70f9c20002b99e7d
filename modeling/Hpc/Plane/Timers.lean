import Hpc.Core.Duration
import Hpc.Daemon.Grpc
import Hpc.Daemon.Service

set_option autoImplicit false

namespace Hpc.Plane

open Hpc.Core Hpc.Daemon

-- The fields that the timers are made from, and what the monitor checks at its start.
structure AgentConfig where
  metricsInterval : Duration
  heartbeatInterval : Duration

structure MonitorConfig (F : Type) where
  scrapeInterval : Duration
  thresholds : Thresholds F

-- Configurations with which all three binaries start. The agent checks nothing.
structure Deployment (F : Type) [F64Text F] where
  daemon : DaemonConfig F
  agent : AgentConfig
  monitor : MonitorConfig F
  daemonAccepted : daemon.validate = .ok ()
  monitorAccepted : monitor.thresholds.validate = .ok ()

section Timers

variable {F : Type}

-- tokio::time::interval. None is the panic on a zero period.
def interval (period : Duration) : Option Duration := if period.isZero then none else some period

def reaperTimer (config : DaemonConfig F) : Option Duration :=
  interval ((config.nodeTimeout.div 2).max (Duration.fromSecs 1))

def metricsInterval (config : AgentConfig) (ack : RegisterAck) : Duration :=
  if ack.metricsIntervalSecs > 0 then Duration.fromSecs ack.metricsIntervalSecs.toUInt64 else config.metricsInterval

def sessionTimers (config : AgentConfig) (ack : RegisterAck) : Option (Duration × Duration) := do
  let metricsTimer ← interval (metricsInterval config ack)
  let heartbeatTimer ← interval config.heartbeatInterval
  return (metricsTimer, heartbeatTimer)

def scrapeTicker (config : MonitorConfig F) : Option Duration := interval config.scrapeInterval

theorem interval_iff (period : Duration) : (interval period).isSome ↔ 0 < period.toNanos := by
  rw [interval, Nat.pos_iff_ne_zero, Ne, ← period.is_zero_iff]
  cases period.isZero <;> simp

theorem reaper_timer_starts (config : DaemonConfig F) : (reaperTimer config).isSome := by
  rw [reaperTimer, interval_iff, Duration.max_nanos, Duration.from_secs_nanos]
  exact Nat.lt_of_lt_of_le (by decide) (Nat.le_max_right _ _)

theorem session_timers_iff (config : AgentConfig) (ack : RegisterAck) :
    (sessionTimers config ack).isSome ↔ 0 < (metricsInterval config ack).toNanos ∧ 0 < config.heartbeatInterval.toNanos := by
  rw [← interval_iff, ← interval_iff, sessionTimers]
  cases interval (metricsInterval config ack) with
  | none => simp
  | some metricsTimer => cases interval config.heartbeatInterval <;> simp

theorem metrics_interval_iff (config : AgentConfig) (ack : RegisterAck) :
    0 < (metricsInterval config ack).toNanos ↔ 0 < config.metricsInterval.toNanos ∨ 0 < ack.metricsIntervalSecs.toNat := by
  rw [metricsInterval]
  by_cases directed : ack.metricsIntervalSecs > 0
  · have positive : 0 < ack.metricsIntervalSecs.toNat := UInt32.lt_iff_toNat_lt.mp directed
    rw [if_pos directed, Duration.from_secs_nanos, UInt32.toNat_toUInt64]
    exact iff_of_true (Nat.mul_pos positive (by decide)) (Or.inr positive)
  · have absent : ¬ 0 < ack.metricsIntervalSecs.toNat := fun positive => directed (UInt32.lt_iff_toNat_lt.mpr positive)
    rw [if_neg directed, or_iff_left absent]

theorem boot_interval (config : DaemonConfig F) (booted : UInt64) :
    (Instance.boot config booted).metricsIntervalSecs.toNat = (max config.metricsInterval.asSecs 1).toNat % 2 ^ 32 := rfl

theorem register_ack_interval {Bytes : Type} (codec : Codec (NodeRecord F) Bytes) (daemon : Instance) (txn : Txn)
    (request : Wire.Pb.NodeInfo) (now : UInt64) (state next : SharedState F Bytes) (ack : RegisterAck)
    (sent : Grpc.registerNode codec daemon txn request now state = (.ok ack, next)) :
    ack.metricsIntervalSecs = daemon.metricsIntervalSecs := by
  rw [Grpc.registerNode] at sent
  cases registered : Daemon.registerNode codec txn (Wire.nodeInfoFromPb request) now state with
  | mk answer after =>
      cases answer with
      | error e => simp [registered] at sent
      | ok record =>
          simp only [registered, Prod.mk.injEq, Except.ok.injEq] at sent
          rw [← sent.1]

end Timers

section Deployments

variable {F : Type} [F64Text F]

def AllTick (deployment : Deployment F) (ack : RegisterAck) : Prop :=
  (reaperTimer deployment.daemon).isSome ∧ (sessionTimers deployment.agent ack).isSome ∧
    (scrapeTicker deployment.monitor).isSome

-- The intervals that nothing checks are not zero; that of the metrics may be if the daemon sends one.
def Paced (deployment : Deployment F) : Prop :=
  0 < deployment.agent.heartbeatInterval.toNanos ∧ 0 < deployment.monitor.scrapeInterval.toNanos ∧
    (0 < deployment.agent.metricsInterval.toNanos ∨ 0 < (max deployment.daemon.metricsInterval.asSecs 1).toNat % 2 ^ 32)

theorem all_tick_iff {Bytes : Type} (codec : Codec (NodeRecord F) Bytes) (deployment : Deployment F) (booted : UInt64)
    (txn : Txn) (request : Wire.Pb.NodeInfo) (now : UInt64) (state next : SharedState F Bytes) (ack : RegisterAck)
    (sent : Grpc.registerNode codec (Instance.boot deployment.daemon booted) txn request now state = (.ok ack, next)) :
    AllTick deployment ack ↔ Paced deployment := by
  have reaper := reaper_timer_starts deployment.daemon
  rw [AllTick, Paced, session_timers_iff, metrics_interval_iff, scrapeTicker, interval_iff,
    register_ack_interval codec _ txn request now state next ack sent, boot_interval]
  apply Iff.intro
  · intro tick
    exact ⟨tick.2.1.2, tick.2.2, tick.2.1.1⟩
  · intro paced
    exact ⟨reaper, ⟨paced.2.2, paced.1⟩, paced.2.1⟩

end Deployments

section Samples

theorem rational_config_accepted : rationalConfig.validate = .ok () := by decide +kernel

theorem rational_thresholds_accepted : rationalConfig.thresholds.validate = .ok () := by decide +kernel

def hastyDeployment : Deployment ℚ :=
  { daemon := rationalConfig, agent := ⟨.fromSecs 10, .fromSecs 0⟩, monitor := ⟨.fromSecs 15, rationalConfig.thresholds⟩,
    daemonAccepted := rational_config_accepted, monitorAccepted := rational_thresholds_accepted }

def plainCodec : Codec (NodeRecord ℚ) (NodeRecord ℚ) := ⟨id, .ok⟩

def plainRequest : Wire.Pb.NodeInfo := ⟨"n1", "h1", "10.0.0.1", 0, 8, 1024, 4096, "0.1.0", "6.5.0", "linux", 900, ∅⟩

def plainState : SharedState ℚ (NodeRecord ℚ) := ⟨∅, ∅, .fresh⟩

def plainAck : RegisterAck := ⟨true, "n1", 1000, 10, "registered"⟩

def registeredState : SharedState ℚ (NodeRecord ℚ) :=
  (Grpc.registerNode plainCodec (Instance.boot rationalConfig 1000) .commits plainRequest 1001 plainState).2

theorem plain_node_registered :
    Grpc.registerNode plainCodec (Instance.boot hastyDeployment.daemon 1000) .commits plainRequest 1001 plainState =
      (.ok plainAck, registeredState) := rfl

theorem hasty_deployment_ticks_iff : AllTick hastyDeployment plainAck ↔ Paced hastyDeployment :=
  all_tick_iff plainCodec hastyDeployment 1000 .commits plainRequest 1001 plainState registeredState plainAck
    plain_node_registered

-- All three binaries start, and the agent panics in its first session.
theorem hasty_heartbeat_panics :
    sessionTimers hastyDeployment.agent plainAck = none ∧
      ¬ ∀ (codec : Codec (NodeRecord ℚ) (NodeRecord ℚ)) (deployment : Deployment ℚ) (booted : UInt64) (txn : Txn)
        (request : Wire.Pb.NodeInfo) (now : UInt64) (state next : SharedState ℚ (NodeRecord ℚ)) (ack : RegisterAck),
        Grpc.registerNode codec (Instance.boot deployment.daemon booted) txn request now state = (.ok ack, next) →
          AllTick deployment ack := by
  have stopped : sessionTimers hastyDeployment.agent plainAck = none := rfl
  apply And.intro stopped
  intro ticks
  have started := (ticks plainCodec hastyDeployment 1000 .commits plainRequest 1001 plainState registeredState plainAck
    plain_node_registered).2.1
  rw [stopped] at started
  cases started

end Samples

end Hpc.Plane
