import Hpc.Lib.Runs

set_option autoImplicit false

namespace Hpc.Lib

variable {State Label : Type}

def Within (step : State → Label → Option State) (kind : Label → Prop) (goal : State → Prop) (bound : Nat)
    (start : State) : Prop :=
  ∃ labels finish, labels.length ≤ bound ∧ (∀ label ∈ labels, kind label) ∧
    runFrom step start labels = some finish ∧ goal finish

def counted (step : State → Label → Option State) (counts : State → Label → Bool) : State → List Label → Nat
  | _, [] => 0
  | state, label :: rest =>
      (counts state label).toNat + (step state label).elim 0 fun next => counted step counts next rest

section Rules

variable (step : State → Label → Option State) (kind : Label → Prop) (goal : State → Prop)

theorem within_now (bound : Nat) (start : State) (reached : goal start) : Within step kind goal bound start :=
  ⟨[], start, Nat.zero_le _, (fun _ member => nomatch member), rfl, reached⟩

theorem within_step (bound : Nat) (start next : State) (label : Label) (allowed : kind label)
    (taken : step start label = some next) (later : Within step kind goal bound next) :
    Within step kind goal (bound + 1) start := by
  obtain ⟨labels, finish, short, all, ran, reached⟩ := later
  refine ⟨label :: labels, finish, Nat.succ_le_succ short, ?_, (run_cons step _ _ _ _).mpr ⟨next, taken, ran⟩, reached⟩
  intro query member
  rcases List.mem_cons.mp member with same | rest
  · exact same ▸ allowed
  · exact all query rest

theorem within_mono (weak : State → Prop) (bound wider : Nat) (start : State) (wide : bound ≤ wider)
    (implies : ∀ state, goal state → weak state) (before : Within step kind goal bound start) :
    Within step kind weak wider start := by
  obtain ⟨labels, finish, short, all, ran, reached⟩ := before
  exact ⟨labels, finish, Nat.le_trans short wide, all, ran, implies finish reached⟩

-- Progress by a measure: where a state short of the goal can always move to one that measures less, the goal is near.
theorem within_of_measure (inv : State → Prop) (measure : State → Nat)
    (advance : ∀ state, inv state → ¬ goal state →
      ∃ label next, kind label ∧ step state label = some next ∧ inv next ∧ measure next < measure state)
    (start : State) (initial : inv start) : Within step kind (fun state => inv state ∧ goal state) (measure start) start := by
  generalize size : measure start = bound
  induction bound using Nat.strongRecOn generalizing start with
  | ind bound ih =>
      by_cases reached : goal start
      · exact within_now step kind _ _ start ⟨initial, reached⟩
      · obtain ⟨label, next, allowed, taken, kept, less⟩ := advance start initial reached
        have tail := ih (measure next) (size ▸ less) next kept rfl
        have longer := within_step step kind _ _ start next label allowed taken tail
        exact within_mono step kind _ _ _ _ start (by omega) (fun _ => id) longer

theorem run_bounded (inv : State → Prop) (measure : State → Nat)
    (descends : ∀ state label next, inv state → kind label → step state label = some next →
      inv next ∧ measure next < measure state)
    (start finish : State) (labels : List Label) (initial : inv start) (all : ∀ label ∈ labels, kind label)
    (ran : runFrom step start labels = some finish) : inv finish ∧ labels.length + measure finish ≤ measure start := by
  induction labels generalizing start with
  | nil =>
      cases ran
      exact ⟨initial, by simp⟩
  | cons label rest ih =>
      obtain ⟨next, taken, tail⟩ := (run_cons step _ _ _ _).mp ran
      obtain ⟨kept, less⟩ := descends start label next initial (all label (List.mem_cons_self ..)) taken
      obtain ⟨there, bound⟩ := ih next kept (fun query member => all query (List.mem_cons_of_mem _ member)) tail
      refine ⟨there, ?_⟩
      rw [List.length_cons]
      omega

-- Each step that counts is paid for by the measure, and no other step raises it.
theorem run_counted (counts : State → Label → Bool) (measure : State → Nat)
    (pays : ∀ state label next, kind label → step state label = some next →
      (counts state label).toNat + measure next ≤ measure state)
    (start finish : State) (labels : List Label) (all : ∀ label ∈ labels, kind label)
    (ran : runFrom step start labels = some finish) : counted step counts start labels + measure finish ≤ measure start := by
  induction labels generalizing start with
  | nil =>
      cases ran
      exact Nat.le_of_eq (Nat.zero_add _)
  | cons label rest ih =>
      obtain ⟨next, taken, tail⟩ := (run_cons step _ _ _ _).mp ran
      have paid := pays start label next (all label (List.mem_cons_self ..)) taken
      have later := ih next (fun query member => all query (List.mem_cons_of_mem _ member)) tail
      rw [counted, taken, Option.elim_some]
      omega

end Rules

end Hpc.Lib
