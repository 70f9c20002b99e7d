import Hpc.Agent.Traffic
import Hpc.Diag.Proc

set_option autoImplicit false

namespace Hpc.Diag

open Hpc.Core Hpc.Agent

def NetDev.counter (net : NetDev) : Column → UInt64
  | .rxBytes => net.rxBytes
  | .txBytes => net.txBytes
  | .rxErrors => net.rxErrs
  | .txErrors => net.txErrs

def NetDev.totals (net : NetDev) : NetCounters := ⟨net.rxBytes, net.txBytes, net.rxErrs, net.txErrs⟩

def Physical (net : NetDev) : Prop := net.interface ≠ "" ∧ net.interface ≠ "lo"

instance (net : NetDev) : Decidable (Physical net) := inferInstanceAs (Decidable (_ ∧ _))

theorem physical_iff (net : NetDev) (name : List Char) (named : net.interface = String.ofList name) :
    Physical net ↔ ¬ (name = ['l', 'o'] ∨ name = []) := by
  have loopback : String.ofList name = "lo" ↔ name = ['l', 'o'] := by
    apply Iff.intro
    · intro same
      exact String.ofList_injective same
    · intro same
      rw [same]
  have nameless : String.ofList name = "" ↔ name = [] := by
    apply Iff.intro
    · intro same
      exact String.ofList_injective same
    · intro same
      rw [same]
  rw [Physical, named, Ne, Ne, loopback, nameless, ← not_or, or_comm]

theorem net_row_eq (line : List Char) :
    netRow line = ((netDev line).filter fun net => Physical net).map fun net => (net.interface, net.totals) := by
  rw [netRow, netDev]
  cases splitOnce ':' line with
  | none => rfl
  | some parts =>
      obtain ⟨iface, rest⟩ := parts
      by_cases short : (words isWhiteSpace rest).length < 11
      · simp [short]
      · simp only [if_neg short]
        rw [Option.filter_some]
        by_cases skipped : trim isWhiteSpace iface = ['l', 'o'] ∨ trim isWhiteSpace iface = []
        · rw [if_pos skipped, if_neg]
          · rfl
          · rw [decide_eq_true_eq, physical_iff _ _ rfl, not_not]
            exact skipped
        · rw [if_neg skipped, if_pos]
          · rfl
          · rw [decide_eq_true_eq, physical_iff _ _ rfl]
            exact skipped

theorem interfaces_eq (text : String) :
    interfaces (some text) =
      ((parseNetDev text).filter fun net => Physical net).map fun net => (net.interface, net.totals) := by
  rw [interfaces, parseNetDev, Option.elim_some, List.filter_filterMap, List.map_filterMap]
  exact List.filterMap_congr fun line _ => net_row_eq line

theorem read_net_dev_agrees (text : String) (column : Column) :
    ((readNetDev (some text)).get column).toNat =
      (((parseNetDev text).filter fun net => Physical net).map fun net => (net.counter column).toNat).sum % 2 ^ 64 := by
  have zero : (NetCounters.zero.get column).toNat = 0 := by cases column <;> rfl
  have each : ∀ net : NetDev, net.totals.get column = net.counter column := by
    intro net
    cases column <;> rfl
  rw [readNetDev, fold_get, zero, Nat.zero_add, interfaces_eq, List.map_map]
  simp only [Function.comp_def, each]

end Hpc.Diag
