import Hpc.Agent.Traffic

set_option autoImplicit false

namespace Hpc.Agent

open Hpc.Core Hpc.Lib

-- The errors of a report are counts, not rates.
inductive Direction where
  | received
  | sent
deriving DecidableEq, Repr

def Direction.column : Direction → Column
  | .received => .rxErrors
  | .sent => .txErrors

def errorsOf {F : Type} (report : MetricsReport F) : Direction → UInt64
  | .received => report.network.rxErrors
  | .sent => report.network.txErrors

section Series

variable {F : Type} [F64Rate F]

def Machine.total (machine : Machine F) (direction : Direction) : Nat :=
  ((readNetDev machine.netDev.content).get direction.column).toNat

def Collector.reports : Collector → List (Machine F) → List (MetricsReport F)
  | _, [] => []
  | collector, machine :: rest => (collector.collect machine).1 :: (collector.collect machine).2.reports rest

def Collector.unmeasured (direction : Direction) : Collector → Machine F → List (Machine F) → Nat
  | _, _, [] => 0
  | collector, before, machine :: rest =>
      (if (collector.elapsed machine.instant : Option F).isSome then 0 else machine.total direction - before.total direction) +
        (collector.collect machine).2.unmeasured direction machine rest

theorem errors_of_delta (collector : Collector) (machine : Machine F) (direction : Direction) :
    errorsOf (collector.collect machine).1 direction = (collector.netDeltas machine).get direction.column := by
  rw [errorsOf.eq_def, collect_network]
  cases direction <;> rfl

theorem first_report_errors (nodeId : NodeId) (machine : Machine F) (direction : Direction) :
    errorsOf ((⟨nodeId, none⟩ : Collector).collect machine).1 direction = 0 := by
  rw [errors_of_delta]
  cases direction <;> rfl

theorem next_report_errors (collector : Collector) (first second : Machine F) (direction : Direction) :
    (errorsOf ((collector.collect first).2.collect second).1 direction).toNat +
        (if ((collector.collect first).2.elapsed second.instant : Option F).isSome then 0
          else second.total direction - first.total direction) =
      second.total direction - first.total direction := by
  rw [errors_of_delta, net_deltas_get]
  split
  · rfl
  · exact Nat.zero_add _

theorem later_reports_errors (collector : Collector) (first : Machine F) (samples : List (Machine F)) (direction : Direction) :
    (((collector.collect first).2.reports samples).map fun report => (errorsOf report direction).toNat).sum +
        (collector.collect first).2.unmeasured direction first samples =
      rises (first.total direction) (samples.map fun machine => machine.total direction) := by
  induction samples generalizing collector first with
  | nil => rfl
  | cons second rest ih =>
      have one := next_report_errors collector first second direction
      have others := ih (collector.collect first).2 second
      simp only [Collector.reports, Collector.unmeasured, List.map_cons, List.sum_cons, rises, paces] at others ⊢
      omega

-- An agent's error counts add up: over any series of samples what its reports say, with what fell into no measured time, is
-- the change of the machine's total and what restarts took out of it. So where time is measured between the samples, the
-- reports sum up to the change exactly if the total has never fallen.
theorem reported_errors_add_up (nodeId : NodeId) (first : Machine F) (samples : List (Machine F)) (direction : Direction) :
    let collector : Collector := ⟨nodeId, none⟩
    let reported := ((collector.reports (first :: samples)).map fun report => (errorsOf report direction).toNat).sum
    let missed := (collector.collect first).2.unmeasured direction first samples
    let totals := samples.map fun machine => machine.total direction
    let last := totals.getLastD (first.total direction)
    reported + missed + first.total direction = last + falls (first.total direction) totals ∧
      (missed = 0 →
        (reported + first.total direction = last ↔ (first.total direction :: totals).IsChain (· ≤ ·))) := by
  intro collector reported missed totals last
  have later : reported + missed = rises (first.total direction) totals := by
    rw [← later_reports_errors collector first samples direction]
    simp only [reported, missed, Collector.reports, List.map_cons, List.sum_cons, first_report_errors, collector,
      UInt64.toNat_zero, Nat.zero_add]
  have balance : first.total direction + rises (first.total direction) totals = last + falls (first.total direction) totals :=
    series_balance (first.total direction) totals
  have even : reported + missed + first.total direction = last + falls (first.total direction) totals := by omega
  apply And.intro even
  intro measured
  rw [← falls_zero_iff]
  omega

end Series

end Hpc.Agent
