import Mathlib.Data.List.Basic

set_option autoImplicit false

namespace Hpc.Lib

variable {State Label : Type}

-- A machine is a partial step function: none means that the label is not enabled in that state. A run is the list of labels
-- taken, oldest first.
def runFrom (step : State → Label → Option State) : State → List Label → Option State
  | state, [] => some state
  | state, label :: rest => (step state label).bind fun next => runFrom step next rest

def Throughout (step : State → Label → Option State) (property : State → Prop) : State → List Label → Prop
  | state, [] => property state
  | state, label :: rest => property state ∧ ∀ next, step state label = some next → Throughout step property next rest

def Obeys (step : State → Label → Option State) (rule : State → Label → Prop) : State → List Label → Prop
  | _, [] => True
  | state, label :: rest =>
      ∀ next, step state label = some next → rule state label ∧ Obeys step rule next rest

instance decidableObeys (step : State → Label → Option State) (rule : State → Label → Prop)
    [∀ state label, Decidable (rule state label)] : ∀ start labels, Decidable (Obeys step rule start labels)
  | _, [] => isTrue trivial
  | state, label :: rest =>
      match enabled : step state label with
      | none => isTrue fun next taken => by simp [enabled] at taken
      | some next =>
          have := decidableObeys step rule next rest
          decidable_of_iff (rule state label ∧ Obeys step rule next rest) (by simp [Obeys, enabled])

section Rules

variable (step : State → Label → Option State)

theorem run_cons (state finish : State) (label : Label) (rest : List Label) :
    runFrom step state (label :: rest) = some finish ↔
      ∃ next, step state label = some next ∧ runFrom step next rest = some finish := by
  simp [runFrom, Option.bind_eq_some_iff]

theorem run_append (state finish : State) (front back : List Label) :
    runFrom step state (front ++ back) = some finish ↔
      ∃ middle, runFrom step state front = some middle ∧ runFrom step middle back = some finish := by
  induction front generalizing state with
  | nil => simp [runFrom]
  | cons label rest ih =>
      rw [List.cons_append, run_cons]
      apply Iff.intro
      · rintro ⟨next, taken, ran⟩
        obtain ⟨middle, first, second⟩ := (ih next).mp ran
        exact ⟨middle, (run_cons step _ _ _ _).mpr ⟨next, taken, first⟩, second⟩
      · rintro ⟨middle, first, second⟩
        obtain ⟨next, taken, ran⟩ := (run_cons step _ _ _ _).mp first
        exact ⟨next, taken, (ih next).mpr ⟨middle, ran, second⟩⟩

theorem run_invariant (inv : State → Prop)
    (preserves : ∀ state label next, inv state → step state label = some next → inv next)
    (start finish : State) (labels : List Label) (initial : inv start)
    (ran : runFrom step start labels = some finish) : inv finish := by
  induction labels generalizing start with
  | nil =>
      have same : start = finish := by simpa [runFrom] using ran
      exact same ▸ initial
  | cons label rest ih =>
      obtain ⟨next, taken, tail⟩ := (run_cons step _ _ _ _).mp ran
      exact ih next (preserves start label next initial taken) tail

theorem run_traced (inv : List Label → State → Prop)
    (preserves : ∀ taken state label next, inv taken state → step state label = some next → inv (taken ++ [label]) next)
    (start finish : State) (before labels : List Label) (initial : inv before start)
    (ran : runFrom step start labels = some finish) : inv (before ++ labels) finish := by
  induction labels generalizing start before with
  | nil =>
      have same : start = finish := by simpa [runFrom] using ran
      rw [List.append_nil]
      exact same ▸ initial
  | cons label rest ih =>
      obtain ⟨next, enabled, tail⟩ := (run_cons step _ _ _ _).mp ran
      have later := ih next (before ++ [label]) (preserves before start label next initial enabled) tail
      rwa [List.append_assoc] at later

theorem throughout_start (property : State → Prop) (start : State) (labels : List Label)
    (always : Throughout step property start labels) : property start := by
  cases labels with
  | nil => exact always
  | cons label rest => exact always.1

theorem throughout_mono (weak strong : State → Prop) (implies : ∀ state, strong state → weak state)
    (start : State) (labels : List Label) (always : Throughout step strong start labels) :
    Throughout step weak start labels := by
  induction labels generalizing start with
  | nil => exact implies start always
  | cons label rest ih =>
      exact ⟨implies start always.1, fun next taken => ih next (always.2 next taken)⟩

-- The rule for conditional safety: an invariant that a step keeps whenever the step meets the rule holds in every state of a
-- run whose steps all meet it.
theorem throughout_of_obeys (inv : State → Prop) (rule : State → Label → Prop)
    (preserves : ∀ state label next, inv state → rule state label → step state label = some next → inv next)
    (start : State) (labels : List Label) (initial : inv start)
    (meets : Obeys step rule start labels) : Throughout step inv start labels := by
  induction labels generalizing start with
  | nil => exact initial
  | cons label rest ih =>
      refine ⟨initial, fun next taken => ?_⟩
      obtain ⟨here, later⟩ := meets next taken
      exact ih next (preserves start label next initial here taken) later

theorem throughout_invariant (inv : State → Prop)
    (preserves : ∀ state label next, inv state → step state label = some next → inv next)
    (start : State) (labels : List Label) (initial : inv start) : Throughout step inv start labels := by
  induction labels generalizing start with
  | nil => exact initial
  | cons label rest ih =>
      exact ⟨initial, fun next taken => ih next (preserves start label next initial taken)⟩

theorem obeys_of_throughout (inv : State → Prop) (rule : State → Label → Prop)
    (implies : ∀ state label next, inv state → step state label = some next → rule state label)
    (start : State) (labels : List Label) (always : Throughout step inv start labels) :
    Obeys step rule start labels := by
  induction labels generalizing start with
  | nil => trivial
  | cons label rest ih =>
      intro next taken
      exact ⟨implies start label next always.1 taken, ih next (always.2 next taken)⟩

-- The exact form: where the rule says precisely which steps keep the property, the property holds along a run exactly when
-- every step meets the rule.
theorem throughout_iff_obeys (frame property : State → Prop) (rule : State → Label → Prop)
    (framed : ∀ state label next, frame state → step state label = some next → frame next)
    (exact_step : ∀ state label next, frame state → property state → step state label = some next →
      (property next ↔ rule state label))
    (start : State) (labels : List Label) (inFrame : frame start) (initial : property start) :
    Throughout step property start labels ↔ Obeys step rule start labels := by
  induction labels generalizing start with
  | nil => exact ⟨fun _ => trivial, fun _ => initial⟩
  | cons label rest ih =>
      apply Iff.intro
      · intro always next taken
        have there := throughout_start step property next rest (always.2 next taken)
        have nextFrame := framed start label next inFrame taken
        exact ⟨(exact_step start label next inFrame initial taken).mp there,
          (ih next nextFrame there).mp (always.2 next taken)⟩
      · intro meets
        refine ⟨initial, fun next taken => ?_⟩
        obtain ⟨here, later⟩ := meets next taken
        have there := (exact_step start label next inFrame initial taken).mpr here
        exact (ih next (framed start label next inFrame taken) there).mpr later

end Rules

-- Where each step of one machine is a run of another, up to a relation of their states, so is each run.
theorem run_simulated {Low Action : Type} (step : State → Label → Option State) (low : Low → Action → Option Low)
    (relates : Low → State → Prop)
    (matched : ∀ lower state label next, relates lower state → step state label = some next →
      ∃ actions after, runFrom low lower actions = some after ∧ relates after next)
    (start finish : State) (labels : List Label) (lower : Low) (related : relates lower start)
    (ran : runFrom step start labels = some finish) :
    ∃ actions after, runFrom low lower actions = some after ∧ relates after finish := by
  induction labels generalizing start lower with
  | nil =>
      have same : start = finish := by simpa [runFrom] using ran
      exact ⟨[], lower, rfl, same ▸ related⟩
  | cons label rest ih =>
      obtain ⟨next, taken, tail⟩ := (run_cons step _ _ _ _).mp ran
      obtain ⟨first, middle, reached, there⟩ := matched lower start label next related taken
      obtain ⟨second, after, followed, here⟩ := ih next middle there tail
      exact ⟨first ++ second, after, (run_append low _ _ first second).mpr ⟨middle, reached, followed⟩, here⟩

end Hpc.Lib
