import Hpc.Agent.Metrics

set_option autoImplicit false

namespace Hpc.Agent

open Hpc.Core Hpc.Lib

inductive Column where
  | rxBytes
  | txBytes
  | rxErrors
  | txErrors
deriving DecidableEq, Repr

def NetCounters.get (counters : NetCounters) : Column → UInt64
  | .rxBytes => counters.rx
  | .txBytes => counters.tx
  | .rxErrors => counters.rxe
  | .txErrors => counters.txe

namespace NetDev

variable (before now : NetDev) (column : Column)

def names (netDev : NetDev) : Finset String := sources (interfaces netDev.content)

def count (netDev : NetDev) (column : Column) : String → Nat :=
  reading (fun counters : NetCounters => (counters.get column).toNat) (interfaces netDev.content)

def traffic : Nat := progress before.names now.names (before.count column) (now.count column)

def Still : Prop := Lib.Still before.names now.names (before.count column) (now.count column)

-- What new interfaces bring into the sum is what gone and restarted ones take out of it, or no counter went up and no more
-- came in than went out; an overflow of the sum counts as going out, and one of the sum before as coming in.
def Even : Prop :=
  let came := gained before.names now.names (before.count column) (now.count column) (2 ^ 64)
  let went := forgone before.names now.names (before.count column) (now.count column) (2 ^ 64)
  came = went ∨ before.Still now column ∧ came ≤ went

end NetDev

section Sums

variable (column : Column)

theorem get_add (a b : NetCounters) : (a.add b).get column = a.get column + b.get column := by
  cases column <;> rfl

theorem fold_get (rows : List (String × NetCounters)) (sums : NetCounters) :
    ((rows.foldl (fun sums row => sums.add row.2) sums).get column).toNat =
      ((sums.get column).toNat + (rows.map fun row => (row.2.get column).toNat).sum) % 2 ^ 64 := by
  induction rows generalizing sums with
  | nil => simp [Nat.mod_eq_of_lt (UInt64.toNat_lt _)]
  | cons row rows ih =>
      rw [List.foldl_cons, ih, get_add, UInt64.toNat_add, Nat.mod_add_mod, List.map_cons, List.sum_cons, Nat.add_assoc]

theorem read_net_dev_total (netDev : NetDev) :
    ((readNetDev netDev.content).get column).toNat = (∑ name ∈ netDev.names, netDev.count column name) % 2 ^ 64 := by
  have total := sum_reading (fun counters : NetCounters => (counters.get column).toNat) (interfaces netDev.content)
    netDev.distinct
  have zero : (NetCounters.zero.get column).toNat = 0 := by cases column <;> rfl
  rw [readNetDev, fold_get, zero, Nat.zero_add, ← total]
  rfl

end Sums

section Collects

variable {F : Type} [F64Rate F] (collector : Collector) (first second : Machine F)

theorem net_deltas_get (column : Column) :
    (((collector.collect first).2.netDeltas second).get column).toNat =
      if ((collector.collect first).2.elapsed second.instant : Option F).isSome then
        ((readNetDev second.netDev.content).get column).toNat - ((readNetDev first.netDev.content).get column).toNat
      else 0 := by
  have sampled : (collector.collect first).2.prev =
      some ⟨first.instant, readDiskstats first.diskstats, readNetDev first.netDev.content⟩ := rfl
  cases measured : ((collector.collect first).2.elapsed second.instant : Option F) with
  | none =>
      simp only [Collector.netDeltas, measured]
      cases column <;> rfl
  | some secs =>
      simp only [Collector.netDeltas, measured, sampled]
      cases column with
      | rxBytes => exact saturating_sub_nat _ _
      | txBytes => exact saturating_sub_nat _ _
      | rxErrors => exact saturating_sub_nat _ _
      | txErrors => exact saturating_sub_nat _ _

-- The report of the second sample is made of the deltas, and they are the traffic exactly where the interfaces allow it.
theorem network_deltas_iff :
    (((collector.collect first).2.collect second).1.network =
        ⟨perSecond ((collector.collect first).2.elapsed second.instant : Option F)
            ((collector.collect first).2.netDeltas second).rx,
          perSecond ((collector.collect first).2.elapsed second.instant : Option F)
            ((collector.collect first).2.netDeltas second).tx,
          ((collector.collect first).2.netDeltas second).rxe, ((collector.collect first).2.netDeltas second).txe⟩) ∧
      ((∀ column, (((collector.collect first).2.netDeltas second).get column).toNat =
          first.netDev.traffic second.netDev column) ↔
        if ((collector.collect first).2.elapsed second.instant : Option F).isSome then
          ∀ column, first.netDev.Even second.netDev column
        else ∀ column, first.netDev.Still second.netDev column) := by
  apply And.intro (collect_network _ second)
  split
  · rename_i measured
    apply forall_congr'
    intro column
    rw [net_deltas_get, if_pos measured, read_net_dev_total, read_net_dev_total]
    exact sum_difference_iff first.netDev.names second.netDev.names _ _ (2 ^ 64)
  · rename_i unmeasured
    apply forall_congr'
    intro column
    rw [net_deltas_get, if_neg unmeasured, eq_comm]
    exact progress_none_iff first.netDev.names second.netDev.names _ _

end Collects

section Samples

def ethText : String := "  eth0: 1000 9 0 0 0 0 0 0 2000 9 0 0 0 0 0 0\n"

def tunnelText : String := ethText ++ "  wg0: 500000 400 3 0 0 0 0 0 750000 400 0 0 0 0 0 0\n"

theorem eth_rows : interfaces (some ethText) = [("eth0", ⟨1000, 2000, 0, 0⟩)] := by decide +kernel

theorem tunnel_rows :
    interfaces (some tunnelText) = [("eth0", ⟨1000, 2000, 0, 0⟩), ("wg0", ⟨500000, 750000, 3, 0⟩)] := by decide +kernel

theorem eth_distinct : ((interfaces (some ethText)).map Prod.fst).Nodup := by simp [eth_rows]

theorem tunnel_distinct : ((interfaces (some tunnelText)).map Prod.fst).Nodup := by simp [tunnel_rows]

def ethOnly : NetDev := ⟨some ethText, eth_distinct⟩

def withTunnel : NetDev := ⟨some tunnelText, tunnel_distinct⟩

def sampleMachine (secs : UInt64) (netDev : NetDev) : Machine ExactF64 :=
  { instant := .fromSecs secs, timestamp := secs, cpu := ⟨.finite 0, []⟩, memory := ⟨0, 0, 0, 0, 0⟩,
    load := ⟨.finite 0, .finite 0, .finite 0⟩, volumes := [], diskstats := none, netDev := netDev }

-- A tunnel appears between two samples in which nothing was sent: its whole count is reported as the traffic of ten seconds.
theorem tunnel_appears_as_burst :
    let collector : Collector := (Collector.collect ⟨"n1", none⟩ (sampleMachine 100 ethOnly)).2
    (collector.collect (sampleMachine 110 withTunnel)).1.network = ⟨50000, 75000, 3, 0⟩ ∧
      (∀ column, ethOnly.traffic withTunnel column = 0) ∧
      ¬ ∀ column, ((collector.netDeltas (sampleMachine 110 withTunnel)).get column).toNat =
        ethOnly.traffic withTunnel column := by
  intro collector
  have reported : (collector.collect (sampleMachine 110 withTunnel)).1.network = ⟨50000, 75000, 3, 0⟩ := by decide +kernel
  have none : ∀ column, ethOnly.traffic withTunnel column = 0 := by
    intro column
    rw [NetDev.traffic, NetDev.names, NetDev.names, NetDev.count, NetDev.count, ethOnly, withTunnel, eth_rows, tunnel_rows]
    cases column <;> rfl
  apply And.intro reported
  apply And.intro none
  intro exactly
  have errors := exactly .rxErrors
  have counted := congrArg NetworkMetrics.rxErrors ((collect_network collector _).symm.trans reported)
  rw [none] at errors
  change (collector.netDeltas (sampleMachine 110 withTunnel)).rxe = 3 at counted
  change (collector.netDeltas (sampleMachine 110 withTunnel)).rxe.toNat = 0 at errors
  rw [counted] at errors
  cases errors

end Samples

end Hpc.Agent
