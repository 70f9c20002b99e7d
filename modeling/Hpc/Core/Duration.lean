import Hpc.Core.Config
import Hpc.Core.Error

set_option autoImplicit false

namespace Hpc.Core

namespace Duration

def nanosPerSec : Nat := 1000000000

-- The length in nanoseconds. The facts about the operations below are stated of this number.
def toNanos (d : Duration) : Nat := d.secs.toNat * nanosPerSec + d.nanos.toNat

def ofParts (secs : UInt64) (nanos : Nat) : Duration :=
  ⟨secs, UInt32.ofNat (nanos % nanosPerSec), by
    have small : nanos % nanosPerSec < 1000000000 := Nat.mod_lt nanos (by decide)
    rw [UInt32.toNat_ofNat', Nat.mod_eq_of_lt (by omega)]
    exact small⟩

theorem zero_carried : (0 : UInt32).toNat < 1000000000 := by decide

def fromSecs (secs : UInt64) : Duration := ⟨secs, 0, zero_carried⟩

def less (a b : Duration) : Bool := a.secs < b.secs || (a.secs == b.secs && a.nanos < b.nanos)

def min (a b : Duration) : Duration := if less b a then b else a

def max (a b : Duration) : Duration := if less b a then a else b

def isZero (d : Duration) : Bool := d.secs == 0 && d.nanos == 0

-- The divisor is not zero; the division panics on that.
def div (d : Duration) (rhs : UInt32) : Duration :=
  let extra := (d.secs.toNat % rhs.toNat * nanosPerSec + d.nanos.toNat % rhs.toNat) / rhs.toNat
  ofParts (d.secs / rhs.toUInt64) (d.nanos.toNat / rhs.toNat + extra)

-- None is the overflow at which the multiplication panics.
def checkedMul (d : Duration) (rhs : UInt32) : Option Duration :=
  let totalNanos := d.nanos.toNat * rhs.toNat
  let secs := d.secs.toNat * rhs.toNat + totalNanos / nanosPerSec
  if secs < 2 ^ 64 then some (ofParts (UInt64.ofNat secs) totalNanos) else none

def decimalText (whole fraction digits : Nat) : String :=
  let padded := (toString fraction).toList.leftpad digits '0'
  if fraction = 0 then toString whole
  else toString whole ++ "." ++ String.ofList (padded.rdropWhile fun c => c = '0')

def debug (d : Duration) : String :=
  let nanos := d.nanos.toNat
  if 0 < d.secs then decimalText d.secs.toNat nanos 9 ++ "s"
  else if 1000000 ≤ nanos then decimalText (nanos / 1000000) (nanos % 1000000) 6 ++ "ms"
  else if 1000 ≤ nanos then decimalText (nanos / 1000) (nanos % 1000) 3 ++ "µs"
  else toString nanos ++ "ns"

theorem as_secs_floor (d : Duration) : d.asSecs.toNat = d.toNanos / nanosPerSec := by
  have carried := d.carried
  simp only [asSecs, toNanos, nanosPerSec]
  omega

theorem of_parts_nanos (secs : UInt64) (nanos : Nat) :
    (ofParts secs nanos).toNanos = secs.toNat * nanosPerSec + nanos % nanosPerSec := by
  have small : nanos % nanosPerSec < 1000000000 := Nat.mod_lt nanos (by decide)
  simp only [ofParts, toNanos, UInt32.toNat_ofNat']
  rw [Nat.mod_eq_of_lt (by omega)]

theorem less_iff (a b : Duration) : less a b = true ↔ a.toNanos < b.toNanos := by
  have carriedA := a.carried
  have carriedB := b.carried
  simp only [less, Bool.or_eq_true, Bool.and_eq_true, decide_eq_true_eq, beq_iff_eq, UInt64.lt_iff_toNat_lt,
    UInt32.lt_iff_toNat_lt, ← UInt64.toNat_inj, toNanos, nanosPerSec]
  omega

theorem min_nanos (a b : Duration) : (min a b).toNanos = Nat.min a.toNanos b.toNanos := by
  rw [min]
  split
  · rename_i smaller
    have less := (less_iff b a).mp smaller
    exact (Nat.min_eq_right (Nat.le_of_lt less)).symm
  · rename_i larger
    have notLess := mt (less_iff b a).mpr larger
    exact (Nat.min_eq_left (Nat.not_lt.mp notLess)).symm

theorem max_nanos (a b : Duration) : (max a b).toNanos = Nat.max a.toNanos b.toNanos := by
  rw [max]
  split
  · rename_i smaller
    have less := (less_iff b a).mp smaller
    exact (Nat.max_eq_left (Nat.le_of_lt less)).symm
  · rename_i larger
    have notLess := mt (less_iff b a).mpr larger
    exact (Nat.max_eq_right (Nat.not_lt.mp notLess)).symm

theorem is_zero_iff (d : Duration) : d.isZero = true ↔ d.toNanos = 0 := by
  simp only [isZero, Bool.and_eq_true, beq_iff_eq, ← UInt64.toNat_inj, ← UInt32.toNat_inj, toNanos, nanosPerSec]
  change d.secs.toNat = 0 ∧ d.nanos.toNat = 0 ↔ _
  omega

theorem from_secs_nanos (secs : UInt64) : (fromSecs secs).toNanos = secs.toNat * nanosPerSec := Nat.add_zero _

theorem div_nanos (d : Duration) (rhs : UInt32) (positive : 0 < rhs.toNat) :
    (d.div rhs).toNanos = d.toNanos / rhs.toNat := by
  have parts : (d.secs.toNat * nanosPerSec + d.nanos.toNat) / rhs.toNat =
      d.secs.toNat / rhs.toNat * nanosPerSec + (d.nanos.toNat / rhs.toNat +
        (d.secs.toNat % rhs.toNat * nanosPerSec + d.nanos.toNat % rhs.toNat) / rhs.toNat) := by
    have secs := Nat.div_add_mod d.secs.toNat rhs.toNat
    have nanos := Nat.div_add_mod d.nanos.toNat rhs.toNat
    have regrouped : d.secs.toNat * nanosPerSec + d.nanos.toNat =
        d.secs.toNat % rhs.toNat * nanosPerSec + d.nanos.toNat % rhs.toNat +
          rhs.toNat * (d.secs.toNat / rhs.toNat * nanosPerSec + d.nanos.toNat / rhs.toNat) := by
      conv_lhs => rw [← secs, ← nanos]
      ring
    rw [regrouped, Nat.add_mul_div_left _ _ positive]
    ring
  -- What is left of the seconds is less than the divisor, so its share carries into no second.
  have small : d.nanos.toNat / rhs.toNat +
      (d.secs.toNat % rhs.toNat * nanosPerSec + d.nanos.toNat % rhs.toNat) / rhs.toNat < nanosPerSec := by
    have carried := d.carried
    have rest := Nat.mod_lt d.secs.toNat positive
    have whole : (d.secs.toNat % rhs.toNat * nanosPerSec + d.nanos.toNat % rhs.toNat +
        rhs.toNat * (d.nanos.toNat / rhs.toNat)) / rhs.toNat < nanosPerSec := by
      rw [Nat.add_assoc, Nat.mod_add_div, Nat.div_lt_iff_lt_mul positive, Nat.mul_comm nanosPerSec]
      have most := Nat.mul_le_mul_right nanosPerSec (Nat.succ_le_of_lt rest)
      rw [Nat.succ_mul] at most
      exact lt_of_lt_of_le (Nat.add_lt_add_left carried _) most
    rw [Nat.add_mul_div_left _ _ positive] at whole
    omega
  rw [div, of_parts_nanos, Nat.mod_eq_of_lt small, UInt64.toNat_div, UInt32.toNat_toUInt64, toNanos, parts]

theorem checked_mul_spec (d : Duration) (rhs : UInt32) :
    (d.checkedMul rhs = none ∧ 2 ^ 64 * nanosPerSec ≤ d.toNanos * rhs.toNat) ∨
      ∃ product, d.checkedMul rhs = some product ∧ product.toNanos = d.toNanos * rhs.toNat := by
  have split : d.toNanos * rhs.toNat = d.secs.toNat * rhs.toNat * nanosPerSec + d.nanos.toNat * rhs.toNat := by
    rw [toNanos]
    ring
  have carry := Nat.div_add_mod (d.nanos.toNat * rhs.toNat) nanosPerSec
  by_cases fits : d.secs.toNat * rhs.toNat + d.nanos.toNat * rhs.toNat / nanosPerSec < 2 ^ 64
  · refine Or.inr ⟨_, by rw [checkedMul, if_pos fits], ?_⟩
    rw [of_parts_nanos, UInt64.toNat_ofNat', Nat.mod_eq_of_lt fits, split]
    linarith
  · refine Or.inl ⟨by rw [checkedMul, if_neg fits], ?_⟩
    have whole := Nat.mul_le_mul_right nanosPerSec (Nat.not_lt.mp fits)
    rw [Nat.add_mul] at whole
    rw [split]
    exact whole.trans (Nat.add_le_add_left (Nat.div_mul_le_self _ nanosPerSec) _)

end Duration

section Validation

variable {F : Type} [F64Text F]

def Thresholds.validate (thresholds : Thresholds F) : Except HpcError Unit :=
  [("cpu_degraded", thresholds.cpuDegraded), ("memory_degraded", thresholds.memoryDegraded),
    ("disk_degraded", thresholds.diskDegraded)].forM fun (name, v) =>
      if F64.ge v (F64.ofU64 0) && F64.ge (F64.ofU64 1) v then .ok ()
      else .error (.configInvalid (name ++ " must be within 0.0..=1.0, got " ++ F64Text.display v))

def DaemonConfig.validate (config : DaemonConfig F) : Except HpcError Unit :=
  if config.nodeTimeout.less config.metricsInterval then
    .error (.configInvalid ("node_timeout (" ++ config.nodeTimeout.debug ++ ") must be >= metrics_interval (" ++
      config.metricsInterval.debug ++ ")"))
  else config.thresholds.validate

end Validation

end Hpc.Core
