import Mathlib.Algebra.BigOperators.Group.Finset.Piecewise
import Mathlib.Algebra.BigOperators.Group.List.Basic
import Mathlib.Algebra.Order.BigOperators.Group.Finset
import Mathlib.Data.Nat.ModEq

set_option autoImplicit false

namespace Hpc.Lib

open Finset

-- Two readings of a set of cumulative counters, each of the sources that it has. A source may come or go in between, and a
-- counter may start again.
section Readings

variable {Name : Type} [DecidableEq Name] (before now : Finset Name) (old new : Name → Nat)

def progress : Nat := ∑ name ∈ before ∩ now, (new name - old name)

def appeared : Nat := ∑ name ∈ now \ before, new name

def departed : Nat := ∑ name ∈ before \ now, old name

def restarted : Nat := ∑ name ∈ before ∩ now, (old name - new name)

theorem readings_balance :
    ∑ name ∈ now, new name + departed before now old + restarted before now old new =
      ∑ name ∈ before, old name + appeared before now new + progress before now old new := by
  have shared : ∑ name ∈ before ∩ now, new name + restarted before now old new =
      ∑ name ∈ before ∩ now, old name + progress before now old new := by
    rw [restarted, progress, ← sum_add_distrib, ← sum_add_distrib]
    apply sum_congr rfl
    intro name _
    omega
  have after := sum_inter_add_sum_sdiff now before new
  have first := sum_inter_add_sum_sdiff before now old
  rw [inter_comm] at after
  rw [departed, appeared]
  omega

def wrapped (size total : Nat) : Nat := size * (total / size)

-- What the sums gained by other means than progress, and what they lost.
def gained (size : Nat) : Nat := appeared before now new + wrapped size (∑ name ∈ before, old name)

def forgone (size : Nat) : Nat :=
  departed before now old + restarted before now old new + wrapped size (∑ name ∈ now, new name)

def Still : Prop := ∀ name ∈ before ∩ now, new name ≤ old name

theorem progress_none_iff : progress before now old new = 0 ↔ Still before now old new := by
  rw [progress, sum_eq_zero_iff]
  exact forall₂_congr fun name _ => Nat.sub_eq_zero_iff_le

theorem sum_difference_iff (size : Nat) :
    (∑ name ∈ now, new name) % size - (∑ name ∈ before, old name) % size = progress before now old new ↔
      gained before now old new size = forgone before now old new size ∨
        Still before now old new ∧ gained before now old new size ≤ forgone before now old new size := by
  rw [← progress_none_iff]
  have balance := readings_balance before now old new
  have after := Nat.mod_add_div (∑ name ∈ now, new name) size
  have first := Nat.mod_add_div (∑ name ∈ before, old name) size
  simp only [gained, forgone, wrapped]
  omega

end Readings

section Rows

variable {Name Row : Type} [DecidableEq Name] (count : Row → Nat)

def sources (rows : List (Name × Row)) : Finset Name := (rows.map Prod.fst).toFinset

def reading (rows : List (Name × Row)) (name : Name) : Nat := (rows.lookup name).elim 0 count

theorem reading_cons_self (name : Name) (row : Row) (rows : List (Name × Row)) :
    reading count ((name, row) :: rows) name = count row := by
  simp [reading]

theorem reading_cons_other (name other : Name) (row : Row) (rows : List (Name × Row)) (apart : name ≠ other) :
    reading count ((other, row) :: rows) name = reading count rows name := by
  have different : (name == other) = false := beq_false_of_ne apart
  rw [reading, List.lookup_cons, different]
  rfl

theorem sum_reading (rows : List (Name × Row)) (distinct : (rows.map Prod.fst).Nodup) :
    ∑ name ∈ sources rows, reading count rows name = (rows.map fun row => count row.2).sum := by
  induction rows with
  | nil => rfl
  | cons row rows ih =>
      obtain ⟨fresh, rest⟩ := List.nodup_cons.mp distinct
      have added : row.1 ∉ sources rows := by
        intro member
        exact fresh (List.mem_toFinset.mp member)
      have others : ∑ name ∈ sources rows, reading count (row :: rows) name = ∑ name ∈ sources rows, reading count rows name := by
        apply sum_congr rfl
        intro name member
        apply reading_cons_other
        intro same
        exact added (same ▸ member)
      have inserted : sources (row :: rows) = insert row.1 (sources rows) := List.toFinset_cons
      rw [inserted, sum_insert added, reading_cons_self, others, ih rest, List.map_cons, List.sum_cons]

end Rows

section Series

def paces : Nat → List Nat → List (Nat × Nat)
  | _, [] => []
  | before, now :: rest => (before, now) :: paces now rest

def rises (before : Nat) (readings : List Nat) : Nat := ((paces before readings).map fun pace => pace.2 - pace.1).sum

def falls (before : Nat) (readings : List Nat) : Nat := ((paces before readings).map fun pace => pace.1 - pace.2).sum

theorem series_balance (before : Nat) (readings : List Nat) :
    before + rises before readings = readings.getLastD before + falls before readings := by
  induction readings generalizing before with
  | nil => rfl
  | cons now rest ih =>
      have later := ih now
      simp only [rises, falls, paces, List.map_cons, List.sum_cons] at later ⊢
      have last : (now :: rest).getLastD before = rest.getLastD now := by cases rest <;> rfl
      rw [last]
      omega

theorem falls_zero_iff (before : Nat) (readings : List Nat) :
    falls before readings = 0 ↔ (before :: readings).IsChain (· ≤ ·) := by
  induction readings generalizing before with
  | nil => simp [falls, paces]
  | cons now rest ih =>
      have later := ih now
      simp only [falls, paces, List.map_cons, List.sum_cons] at later ⊢
      rw [List.isChain_cons_cons, ← later]
      omega

end Series

end Hpc.Lib
