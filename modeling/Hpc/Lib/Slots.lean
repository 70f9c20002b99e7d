import Mathlib.Data.List.Basic

set_option autoImplicit false

namespace Hpc.Lib

variable {α : Type}

theorem slot_set (slots : List α) (index query : Nat) (old new : α) (here : slots[index]? = some old) :
    (slots.set index new)[query]? = if index = query then some new else slots[query]? := by
  obtain ⟨bound, _⟩ := List.getElem?_eq_some_iff.mp here
  rw [List.getElem?_set, if_pos bound]

theorem slot_push (slots : List α) (query : Nat) (new : α) :
    (slots ++ [new])[query]? = if slots.length = query then some new else slots[query]? := by
  by_cases last : slots.length = query
  · rw [if_pos last, ← last]
    simp
  · rw [if_neg last]
    by_cases inside : query < slots.length
    · rw [List.getElem?_append_left inside]
    · have beyond : slots.length < query := by omega
      rw [List.getElem?_eq_none (by simp; omega), List.getElem?_eq_none (by omega)]

theorem slot_bound (slots : List α) (index : Nat) (value : α) (here : slots[index]? = some value) : index < slots.length :=
  (List.getElem?_eq_some_iff.mp here).1

def EverySlot (property : Nat → α → Prop) (slots : List α) : Prop :=
  ∀ index value, slots[index]? = some value → property index value

theorem every_slot_nil (property : Nat → α → Prop) : EverySlot property [] :=
  fun _ _ found => nomatch found

theorem every_slot_set (property : Nat → α → Prop) (slots : List α) (index : Nat) (old new : α)
    (here : slots[index]? = some old) (every : EverySlot property slots) (fresh : property index new) :
    EverySlot property (slots.set index new) := by
  intro query value found
  rw [slot_set slots index query old new here] at found
  by_cases same : index = query
  · rw [if_pos same] at found
    cases found
    exact same ▸ fresh
  · rw [if_neg same] at found
    exact every query value found

theorem every_slot_push (property : Nat → α → Prop) (slots : List α) (new : α) (every : EverySlot property slots)
    (fresh : property slots.length new) : EverySlot property (slots ++ [new]) := by
  intro query value found
  rw [slot_push] at found
  by_cases last : slots.length = query
  · rw [if_pos last] at found
    cases found
    exact last ▸ fresh
  · rw [if_neg last] at found
    exact every query value found

theorem every_slot_mono (weak strong : Nat → α → Prop) (slots : List α)
    (implies : ∀ index value, strong index value → weak index value) (every : EverySlot strong slots) :
    EverySlot weak slots :=
  fun index value found => implies index value (every index value found)

end Hpc.Lib
