import Hpc.Core.Duration

set_option autoImplicit false

namespace Hpc.Agent

open Hpc.Core

-- How a session ends: the daemon closed the stream or asked for a new registration, or an error tore the session down.
abbrev SessionResult := Except HpcError Unit

def maxBackoff : Duration := Duration.fromSecs 30

-- What run sleeps after each session, and the backoff it carries on with. None is the overflow at which it panics.
structure Reconnects where
  delays : List Duration
  backoff : Option Duration

-- The loop of run, from a backoff that starts as the configured one. Of a result it only writes a warning.
def run (backoff : Duration) : List SessionResult → Reconnects
  | [] => ⟨[], some backoff⟩
  | _ :: rest =>
      match backoff.checkedMul 2 with
      | none => ⟨[backoff], none⟩
      | some doubled =>
          let later := run (doubled.min maxBackoff) rest
          ⟨backoff :: later.delays, later.backoff⟩

def closedCleanly : SessionResult → Bool
  | .ok _ => true
  | .error _ => false

def failedInRow (history : List SessionResult) : Nat :=
  (history.reverse.takeWhile fun result => !closedCleanly result).length

def dueDelay (base : Duration) (before : List SessionResult) (result : SessionResult) : Nat :=
  Nat.min maxBackoff.toNanos (base.toNanos * 2 ^ (if closedCleanly result then 0 else failedInRow before))

def BacksOff (base : Duration) (results : List SessionResult) : Prop :=
  (run base results).backoff.isSome ∧
    ∀ before result after, results = before ++ result :: after →
      (run base results).delays[before.length]?.map Duration.toNanos = some (dueDelay base before result)

theorem failed_in_row_all (history : List SessionResult) (failed : ∀ result ∈ history, closedCleanly result = false) :
    failedInRow history = history.length := by
  have whole : (history.reverse.takeWhile fun result => !closedCleanly result) = history.reverse :=
    List.takeWhile_eq_self_iff.mpr fun result inside => by simp [failed result (List.mem_reverse.mp inside)]
  rw [failedInRow, whole, List.length_reverse]

theorem due_after_clean (base : Duration) (before : List SessionResult) (result : SessionResult)
    (clean : closedCleanly result = true) : dueDelay base before result = Nat.min maxBackoff.toNanos base.toNanos := by
  rw [dueDelay, if_pos clean, Nat.pow_zero, Nat.mul_one]

theorem due_next (base : Duration) (first result : SessionResult) (clean : closedCleanly first = true) :
    dueDelay base [first] result = Nat.min maxBackoff.toNanos base.toNanos := by
  have fresh : failedInRow [first] = 0 := by simp [failedInRow, clean]
  rw [dueDelay, fresh, ite_self, Nat.pow_zero, Nat.mul_one]

theorem capped_twice (cap base power : Nat) (positive : 0 < power) :
    Nat.min cap (Nat.min base cap * power) = Nat.min cap (base * power) := by
  change min cap (min base cap * power) = min cap (base * power)
  by_cases small : base ≤ cap
  · rw [Nat.min_eq_left small]
  · have large := Nat.le_of_not_le small
    have grown : cap ≤ cap * power := Nat.le_mul_of_pos_right cap positive
    have more : cap * power ≤ base * power := Nat.mul_le_mul_right power large
    rw [Nat.min_eq_right large]
    exact (Nat.min_eq_left grown).trans (Nat.min_eq_left (grown.trans more)).symm

theorem run_head (base : Duration) (first : SessionResult) (rest : List SessionResult) :
    (run base (first :: rest)).delays[0]? = some base := by
  rw [run]
  cases base.checkedMul 2 <;> rfl

theorem run_doubles (base : Duration) (results : List SessionResult) (capped : base.toNanos ≤ maxBackoff.toNanos) :
    (run base results).backoff.isSome ∧ ∀ index, index < results.length →
      (run base results).delays[index]?.map Duration.toNanos = some (Nat.min maxBackoff.toNanos (base.toNanos * 2 ^ index)) := by
  induction results generalizing base with
  | nil => exact ⟨rfl, fun index short => absurd short (Nat.not_lt_zero index)⟩
  | cons first rest ih =>
      rcases Duration.checked_mul_spec base 2 with ⟨_, overflow⟩ | ⟨doubled, multiplied, twice⟩
      · have cap : maxBackoff.toNanos = 30000000000 := rfl
        have two : (2 : UInt32).toNat = 2 := rfl
        rw [two, Duration.nanosPerSec] at overflow
        omega
      · have next : (doubled.min maxBackoff).toNanos = Nat.min (base.toNanos * 2) maxBackoff.toNanos := by
          rw [Duration.min_nanos, twice]
          rfl
        have within : (doubled.min maxBackoff).toNanos ≤ maxBackoff.toNanos := by
          rw [next]
          exact Nat.min_le_right _ _
        obtain ⟨carries, later⟩ := ih (doubled.min maxBackoff) within
        rw [run, multiplied]
        refine ⟨carries, fun index short => ?_⟩
        cases index with
        | zero =>
            rw [Nat.pow_zero, Nat.mul_one]
            exact congrArg some (Nat.min_eq_right capped).symm
        | succ index =>
            refine (later index (Nat.lt_of_succ_lt_succ short)).trans ?_
            rw [next, capped_twice _ _ _ (Nat.two_pow_pos index), Nat.mul_assoc, Nat.pow_succ']

theorem doubled_above (base index : Nat) (cap : Nat) (positive : 0 < base) (below : base < cap) (later : 0 < index) :
    Nat.min cap (base * 2 ^ index) ≠ Nat.min cap base := by
  obtain ⟨previous, rfl⟩ := Nat.exists_eq_add_of_lt later
  have power := Nat.two_pow_pos previous
  have grown : base * 2 ≤ base * 2 ^ (0 + previous + 1) := by
    rw [Nat.zero_add, Nat.pow_succ']
    exact Nat.mul_le_mul_left base (Nat.le_mul_of_pos_right 2 power)
  have fixed : Nat.min cap base = base := Nat.min_eq_right (Nat.le_of_lt below)
  rw [fixed]
  exact Nat.ne_of_gt (Nat.lt_min.mpr ⟨below, by omega⟩)

-- The loop never resets, and it does not cap the base it starts from: it is right where neither can be seen.
def ResetUnseen (base : Duration) (results : List SessionResult) : Prop :=
  results = [] ∨ base.toNanos = 0 ∨ base.toNanos = maxBackoff.toNanos ∨
    base.toNanos < maxBackoff.toNanos ∧ (results.length = 1 ∨ ∀ result ∈ results, closedCleanly result = false)

theorem backs_off_of_unseen (base : Duration) (results : List SessionResult) (unseen : ResetUnseen base results) :
    BacksOff base results := by
  by_cases none : results = []
  · subst none
    exact ⟨rfl, fun before result after split => by simp at split⟩
  · have capped : base.toNanos ≤ maxBackoff.toNanos := by
      rcases unseen with empty | zero | full | ⟨below, _⟩
      · exact absurd empty none
      · omega
      · omega
      · omega
    obtain ⟨carries, doubles⟩ := run_doubles base results capped
    refine ⟨carries, fun before result after split => ?_⟩
    rw [doubles before.length (by simp [split]), dueDelay]
    have power (count : Nat) : 0 < 2 ^ count := Nat.two_pow_pos count
    rcases unseen with empty | zero | full | ⟨_, single | failed⟩
    · exact absurd empty none
    · simp [zero]
    · rw [full]
      have same (count : Nat) : Nat.min maxBackoff.toNanos (maxBackoff.toNanos * 2 ^ count) = maxBackoff.toNanos :=
        Nat.min_eq_left (Nat.le_mul_of_pos_right _ (power count))
      rw [same, same]
    · have first : before = [] := by
        rw [split, List.length_append, List.length_cons] at single
        exact List.length_eq_zero_iff.mp (by omega)
      subst first
      simp [failedInRow]
    · have here : closedCleanly result = false := failed result (by simp [split])
      have earlier : failedInRow before = before.length :=
        failed_in_row_all before fun other inside => failed other (by simp [split, inside])
      rw [if_neg (by simp [here]), earlier]

theorem run_exceeds_base (base : Duration) (results : List SessionResult) (positive : 0 < base.toNanos)
    (below : base.toNanos < maxBackoff.toNanos) (index : Nat) (later : 0 < index) (inside : index < results.length) :
    (run base results).delays[index]?.map Duration.toNanos ≠ some (Nat.min maxBackoff.toNanos base.toNanos) := by
  obtain ⟨_, doubles⟩ := run_doubles base results (Nat.le_of_lt below)
  rw [doubles index inside]
  exact fun same => doubled_above base.toNanos index _ positive below later (Option.some.inj same)

theorem clean_alone (base : Duration) (results : List SessionResult) (backsOff : BacksOff base results)
    (positive : 0 < base.toNanos) (below : base.toNanos < maxBackoff.toNanos) (result : SessionResult)
    (inside : result ∈ results) (clean : closedCleanly result = true) : results.length = 1 := by
  obtain ⟨_, due⟩ := backsOff
  have grown := run_exceeds_base base results positive below
  obtain ⟨before, after, rfl⟩ := List.append_of_mem inside
  cases before with
  | cons earlier middle =>
      have here := due (earlier :: middle) result after rfl
      rw [due_after_clean base _ result clean] at here
      exact absurd here (grown _ (Nat.succ_pos _) (by simp))
  | nil =>
      cases after with
      | nil => rfl
      | cons second others =>
          have here := due [result] second others rfl
          rw [due_next base result second clean] at here
          exact absurd here (grown 1 (Nat.succ_pos 0) (by simp))

theorem first_capped (base : Duration) (first : SessionResult) (rest : List SessionResult)
    (backsOff : BacksOff base (first :: rest)) : base.toNanos ≤ maxBackoff.toNanos := by
  have start := backsOff.2 [] first rest rfl
  have fresh : dueDelay base [] first = Nat.min maxBackoff.toNanos base.toNanos := by simp [dueDelay, failedInRow]
  rw [List.length_nil, run_head, Option.map_some, fresh, Option.some.injEq] at start
  rw [start]
  exact Nat.min_le_left _ _

theorem backs_off_iff (base : Duration) (results : List SessionResult) :
    BacksOff base results ↔ ResetUnseen base results := by
  refine ⟨fun backsOff => ?_, backs_off_of_unseen base results⟩
  cases results with
  | nil => exact Or.inl rfl
  | cons first rest =>
      have capped := first_capped base first rest backsOff
      by_cases zero : base.toNanos = 0
      · exact Or.inr (Or.inl zero)
      by_cases full : base.toNanos = maxBackoff.toNanos
      · exact Or.inr (Or.inr (Or.inl full))
      have below : base.toNanos < maxBackoff.toNanos := Nat.lt_of_le_of_ne capped full
      refine Or.inr (Or.inr (Or.inr ⟨below, ?_⟩))
      by_cases several : (first :: rest).length = 1
      · exact Or.inl several
      · refine Or.inr fun result inside => ?_
        cases clean : closedCleanly result with
        | false => rfl
        | true =>
            exact absurd (clean_alone base _ backsOff (Nat.pos_of_ne_zero zero) below result inside clean) several

-- Two errors and a clean close at the default backoff of 2 s.
theorem backoff_not_reset :
    (run (.fromSecs 2) [.error (.rpc "down"), .error (.rpc "down"), .ok ()]).delays =
        [.fromSecs 2, .fromSecs 4, .fromSecs 8] ∧
      ¬ BacksOff (.fromSecs 2) [.error (.rpc "down"), .error (.rpc "down"), .ok ()] := by
  refine ⟨rfl, fun ⟨_, due⟩ => ?_⟩
  have last := due [.error (.rpc "down"), .error (.rpc "down")] (.ok ()) [] rfl
  have slept : (run (.fromSecs 2) [.error (.rpc "down"), .error (.rpc "down"), .ok ()]).delays[2]? = some (.fromSecs 8) := rfl
  rw [List.length_cons, List.length_singleton, slept, due_after_clean _ _ _ rfl] at last
  exact absurd (Option.some.inj last) (by decide +kernel)

end Hpc.Agent
