import Mathlib.Data.List.Basic

set_option autoImplicit false

namespace Hpc.Lib

-- A computation on a state that may fail. A failure keeps what has been done to the state.
abbrev Fallible (State Error A : Type) := ExceptT Error (StateM State) A

variable {State Error A B : Type}

def Contract (pre : State → Prop) (action : Fallible State Error A) (post : A → State → Prop)
    (failure : Error → State → Prop) : Prop :=
  ∀ state, pre state →
    match action state with
    | (.ok result, after) => post result after
    | (.error error, after) => failure error after

theorem contract_pure (pre : State → Prop) (result : A) (post : A → State → Prop) (failure : Error → State → Prop)
    (holds : ∀ state, pre state → post result state) :
    Contract pre (pure result : Fallible State Error A) post failure := fun state before => holds state before

theorem contract_throw (pre : State → Prop) (error : Error) (post : A → State → Prop) (failure : Error → State → Prop)
    (holds : ∀ state, pre state → failure error state) :
    Contract pre (throw error : Fallible State Error A) post failure := fun state before => holds state before

theorem bind_ok (first : Fallible State Error A) (rest : A → Fallible State Error B) (state middle : State) (result : A)
    (ran : first state = (.ok result, middle)) : (first >>= rest) state = rest result middle := by
  change ExceptT.bindCont rest (first state).1 (first state).2 = rest result middle
  rw [ran]
  rfl

theorem bind_error (first : Fallible State Error A) (rest : A → Fallible State Error B) (state middle : State)
    (error : Error) (ran : first state = (.error error, middle)) : (first >>= rest) state = (.error error, middle) := by
  change ExceptT.bindCont rest (first state).1 (first state).2 = (.error error, middle)
  rw [ran]
  rfl

theorem contract_bind (pre : State → Prop) (first : Fallible State Error A) (rest : A → Fallible State Error B)
    (middle : A → State → Prop) (post : B → State → Prop) (failure : Error → State → Prop)
    (starts : Contract pre first middle failure) (goes_on : ∀ result, Contract (middle result) (rest result) post failure) :
    Contract pre (first >>= rest) post failure := by
  intro state before
  have reached := starts state before
  cases ran : first state with
  | mk outcome between =>
      rw [ran] at reached
      cases outcome with
      | ok result =>
          rw [bind_ok first rest state between result ran]
          exact goes_on result between reached
      | error error =>
          rw [bind_error first rest state between error ran]
          exact reached

theorem contract_weaken {weak : State → Prop} {action : Fallible State Error A} {post postWeak : A → State → Prop}
    {failure failureWeak : Error → State → Prop} (strong : State → Prop) (kept : Contract weak action post failure)
    (enough : ∀ state, strong state → weak state) (succeeds : ∀ result state, post result state → postWeak result state)
    (fails : ∀ error state, failure error state → failureWeak error state) :
    Contract strong action postWeak failureWeak := by
  intro state before
  have reached := kept state (enough state before)
  cases ran : action state with
  | mk outcome after =>
      rw [ran] at reached
      cases outcome with
      | ok result => exact succeeds result after reached
      | error error => exact fails error after reached

theorem contract_ends {pre : State → Prop} {action : Fallible State Error A} {post postWeak : A → State → Prop}
    {failure failureWeak : Error → State → Prop} (kept : Contract pre action post failure)
    (succeeds : ∀ result state, post result state → postWeak result state)
    (fails : ∀ error state, failure error state → failureWeak error state) : Contract pre action postWeak failureWeak :=
  contract_weaken pre kept (fun _ before => before) succeeds fails

theorem contract_fails {pre : State → Prop} {action : Fallible State Error A} {post : A → State → Prop}
    {failure failureWeak : Error → State → Prop} (kept : Contract pre action post failure)
    (fails : ∀ error state, failure error state → failureWeak error state) : Contract pre action post failureWeak :=
  contract_ends kept (fun _ _ after => after) fails

theorem contract_true (pre : State → Prop) (action : Fallible State Error A) :
    Contract pre action (fun _ _ => True) fun _ _ => True := by
  intro state _
  cases ran : action state with
  | mk outcome after =>
      cases outcome with
      | ok result => trivial
      | error error => trivial

theorem contract_and {pre other : State → Prop} {action : Fallible State Error A} {post postOther : A → State → Prop}
    {failure failureOther : Error → State → Prop} (first : Contract pre action post failure)
    (second : Contract other action postOther failureOther) :
    Contract (fun state => pre state ∧ other state) action (fun result state => post result state ∧ postOther result state)
      fun error state => failure error state ∧ failureOther error state := by
  intro state before
  have one := first state before.1
  have two := second state before.2
  cases ran : action state with
  | mk outcome after =>
      rw [ran] at one two
      cases outcome with
      | ok result => exact ⟨one, two⟩
      | error error => exact ⟨one, two⟩

theorem contract_leaves (pre : State → Prop) (action : Fallible State Error A) (leaves : State → Prop)
    (kept : Contract pre action (fun _ => leaves) fun _ => leaves) (state : State) (before : pre state) :
    leaves (action state).2 := by
  have reached := kept state before
  cases ran : action state with
  | mk outcome after =>
      rw [ran] at reached
      cases outcome with
      | ok result => exact reached
      | error error => exact reached

theorem tryCatch_eq (action : Fallible State Error A) (handler : Error → Fallible State Error A) (state : State) :
    tryCatch action handler state =
      match (action state).1 with
      | .ok result => (.ok result, (action state).2)
      | .error error => handler error (action state).2 := by
  change (match (action state).1 with
    | .ok result => (pure (.ok result) : StateM State (Except Error A))
    | .error error => handler error) (action state).2 = _
  cases (action state).1 with
  | ok result => rfl
  | error error => rfl

theorem contract_tryCatch (pre : State → Prop) (action : Fallible State Error A) (handler : Error → Fallible State Error A)
    (post : A → State → Prop) (caught failure : Error → State → Prop) (starts : Contract pre action post caught)
    (handles : ∀ error, Contract (caught error) (handler error) post failure) :
    Contract pre (tryCatch action handler) post failure := by
  intro state before
  have reached := starts state before
  rw [tryCatch_eq]
  cases ran : action state with
  | mk outcome between =>
      rw [ran] at reached
      cases outcome with
      | ok result => exact reached
      | error error => exact handles error between reached

end Hpc.Lib
