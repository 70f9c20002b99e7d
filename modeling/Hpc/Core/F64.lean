import Mathlib.Data.Rat.Lemmas
import Mathlib.Algebra.Order.Field.Rat

set_option autoImplicit false

namespace Hpc.Core

-- The operations the code performs on f64 values: the casts `as f64`, division, the `>=` comparison, and the test that JSON
-- encoding depends on. Everything that does not fix the arithmetic is stated for every type with these.
class F64 (F : Type) where
  ofU64 : UInt64 → F
  div : F → F → F
  ge : F → F → Bool
  isFinite : F → Bool

-- What the messages need of f64 besides: the product in a percentage, and the texts of the format strings: a fixed number of
-- decimals, and Display.
class F64Text (F : Type) extends F64 F where
  mul : F → F → F
  fixed : Nat → F → String
  display : F → String

-- Doubles read exactly: rounding is not modelled, but not-a-number and the two infinities are, with the comparisons and
-- quotients they have.
inductive ExactF64 where
  | nan
  | infinite (negative : Bool)
  | finite (value : ℚ)
deriving DecidableEq, Repr

namespace ExactF64

def div : ExactF64 → ExactF64 → ExactF64
  | .nan, _ => .nan
  | _, .nan => .nan
  | .infinite _, .infinite _ => .nan
  | .infinite negative, .finite b => .infinite (negative != decide (b < 0))
  | .finite _, .infinite _ => .finite 0
  | .finite a, .finite b =>
      if b = 0 then if a = 0 then .nan else .infinite (decide (a < 0)) else .finite (a / b)

def ge : ExactF64 → ExactF64 → Bool
  | .nan, _ => false
  | _, .nan => false
  | .infinite a, .infinite b => a == b || !a
  | .infinite negative, .finite _ => !negative
  | .finite _, .infinite negative => negative
  | .finite a, .finite b => decide (b ≤ a)

def isFinite : ExactF64 → Bool
  | .finite _ => true
  | _ => false

end ExactF64

instance : F64 ExactF64 where
  ofU64 n := .finite n.toNat
  div := ExactF64.div
  ge := ExactF64.ge
  isFinite := ExactF64.isFinite

instance : F64 ℚ where
  ofU64 n := n.toNat
  div a b := a / b
  ge a b := decide (b ≤ a)
  isFinite _ := true

section Texts

def roundHalfEven (n d : Nat) : Nat :=
  match compare (2 * (n % d)) d with
  | .lt => n / d
  | .eq => n / d + n / d % 2
  | .gt => n / d + 1

def fixedText (precision : Nat) (x : ℚ) : String :=
  let scaled := roundHalfEven (x.num.natAbs * 10 ^ precision) x.den
  let sign := if x < 0 then "-" else ""
  let whole := toString (scaled / 10 ^ precision)
  let decimals := String.ofList ((toString (scaled % 10 ^ precision)).toList.leftpad precision '0')
  if precision = 0 then sign ++ whole else sign ++ whole ++ "." ++ decimals

-- The fewest decimals that lose nothing; no double prints more than 17 significant ones.
def displayText (x : ℚ) : String :=
  let exact := (List.range 17).find? fun precision => x.num.natAbs * 10 ^ precision % x.den = 0
  fixedText (exact.getD 17) x

end Texts

instance : F64Text ℚ where
  mul a b := a * b
  fixed := fixedText
  display := displayText

example : fixedText 2 (41 / 16) = "2.56" ∧ fixedText 0 (-5 / 2) = "-2" ∧ displayText (3 / 2) = "1.5" := by decide +kernel

end Hpc.Core
