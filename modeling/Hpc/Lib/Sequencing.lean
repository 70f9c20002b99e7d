import Mathlib.Data.List.Forall2

set_option autoImplicit false

namespace Hpc.Lib

variable {ε α β γ : Type}

theorem ok_bind (value : α) (next : α → Except ε β) : (Except.ok value >>= next) = next value := rfl

theorem bind_eq_ok_iff (first : Except ε α) (second : α → Except ε β) (result : β) :
    (first >>= second) = .ok result ↔ ∃ value, first = .ok value ∧ second value = .ok result := by
  cases first <;> simp [bind, Except.bind]

theorem map_error_eq_ok_iff (wrap : ε → γ) (outcome : Except ε α) (result : α) :
    outcome.mapError wrap = .ok result ↔ outcome = .ok result := by
  cases outcome <;> simp [Except.mapError]

theorem to_option_eq_some_iff (outcome : Except ε α) (result : α) : outcome.toOption = some result ↔ outcome = .ok result := by
  cases outcome <;> simp [Except.toOption]

theorem mapM_cons_ok (f : α → Except ε β) (head : α) (rest : List α) (ys : List β) :
    (head :: rest).mapM f = .ok ys ↔
      ∃ y tail, f head = .ok y ∧ rest.mapM f = .ok tail ∧ ys = y :: tail := by
  rw [List.mapM_cons, bind_eq_ok_iff]
  apply Iff.intro
  · rintro ⟨y, first, others⟩
    obtain ⟨tail, second, same⟩ := (bind_eq_ok_iff _ _ _).mp others
    exact ⟨y, tail, first, second, (Except.ok.inj same).symm⟩
  · rintro ⟨y, tail, first, second, rfl⟩
    exact ⟨y, first, (bind_eq_ok_iff _ _ _).mpr ⟨tail, second, rfl⟩⟩

theorem mapM_ok_iff (f : α → Except ε β) (xs : List α) (ys : List β) :
    xs.mapM f = .ok ys ↔ List.Forall₂ (fun x y => f x = .ok y) xs ys := by
  induction xs generalizing ys with
  | nil => cases ys <;> simp [pure, Except.pure]
  | cons head rest ih =>
      rw [mapM_cons_ok]
      apply Iff.intro
      · rintro ⟨y, tail, first, second, rfl⟩
        exact .cons first ((ih tail).mp second)
      · intro related
        cases related with
        | cons first later => exact ⟨_, _, first, (ih _).mpr later, rfl⟩

theorem mapM_result_mem (f : α → Except ε β) (xs : List α) (ys : List β) (mapped : xs.mapM f = .ok ys)
    (y : β) (member : y ∈ ys) : ∃ x ∈ xs, f x = .ok y := by
  induction xs generalizing ys with
  | nil =>
      have empty : ys = [] := by simpa [pure, Except.pure, eq_comm] using mapped
      simp [empty] at member
  | cons head rest ih =>
      obtain ⟨first, tail, found, others, rfl⟩ := (mapM_cons_ok f head rest ys).mp mapped
      rcases List.mem_cons.mp member with rfl | later
      · exact ⟨head, List.mem_cons_self, found⟩
      · obtain ⟨x, present, reached⟩ := ih tail others later
        exact ⟨x, List.mem_cons_of_mem _ present, reached⟩

theorem mapM_succeeds_iff (f : α → Except ε β) (xs : List α) :
    (∃ ys, xs.mapM f = .ok ys) ↔ ∀ x ∈ xs, ∃ y, f x = .ok y := by
  induction xs with
  | nil => simp [pure, Except.pure]
  | cons head rest ih =>
      rw [List.forall_mem_cons, ← ih]
      apply Iff.intro
      · rintro ⟨ys, mapped⟩
        obtain ⟨y, tail, first, second, _⟩ := (mapM_cons_ok f head rest ys).mp mapped
        exact ⟨⟨y, first⟩, tail, second⟩
      · rintro ⟨⟨y, first⟩, tail, second⟩
        exact ⟨y :: tail, (mapM_cons_ok f head rest _).mpr ⟨y, tail, first, second, rfl⟩⟩

theorem mapM_observe_mem (f : α → Except ε β) (before : α → γ) (after : β → γ) (xs : List α) (ys : List β)
    (keeps : ∀ x ∈ xs, ∀ y, f x = .ok y → after y = before x) (mapped : xs.mapM f = .ok ys) :
    ys.map after = xs.map before := by
  induction xs generalizing ys with
  | nil =>
      have empty : ys = [] := by simpa [pure, Except.pure, eq_comm] using mapped
      simp [empty]
  | cons head rest ih =>
      obtain ⟨y, tail, first, second, rfl⟩ := (mapM_cons_ok f head rest ys).mp mapped
      have here := keeps head List.mem_cons_self y first
      have later := ih tail (fun x member => keeps x (List.mem_cons_of_mem _ member)) second
      rw [List.map_cons, List.map_cons, here, later]

theorem mapM_observe (f : α → Except ε β) (before : α → γ) (after : β → γ)
    (keeps : ∀ x y, f x = .ok y → after y = before x) (xs : List α) (ys : List β)
    (mapped : xs.mapM f = .ok ys) : ys.map after = xs.map before :=
  mapM_observe_mem f before after xs ys (fun x _ => keeps x) mapped

theorem mapM_of_eq (f : α → Except ε β) (g : α → β) (xs : List α) (agree : ∀ x ∈ xs, f x = .ok (g x)) :
    xs.mapM f = .ok (xs.map g) := by
  induction xs with
  | nil => rfl
  | cons head rest ih =>
      refine (mapM_cons_ok f head rest _).mpr ⟨g head, rest.map g, agree head (by simp), ?_, rfl⟩
      exact ih fun x member => agree x (by simp [member])

theorem related_mem (relation : α → β → Prop) (xs : List α) (ys : List β) (related : List.Forall₂ relation xs ys)
    (y : β) (member : y ∈ ys) : ∃ x ∈ xs, relation x y := by
  induction related with
  | nil => cases member
  | cons first later ih =>
      rcases List.mem_cons.mp member with rfl | rest
      · exact ⟨_, List.mem_cons_self, first⟩
      · obtain ⟨x, present, here⟩ := ih rest
        exact ⟨x, List.mem_cons_of_mem _ present, here⟩

theorem related_map (relation : α → β → Prop) (before : α → γ) (after : β → γ)
    (same : ∀ x y, relation x y → after y = before x) (xs : List α) (ys : List β)
    (related : List.Forall₂ relation xs ys) : ys.map after = xs.map before := by
  induction related with
  | nil => rfl
  | cons first later ih => rw [List.map_cons, List.map_cons, same _ _ first, ih]

end Hpc.Lib
