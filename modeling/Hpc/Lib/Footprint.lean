import Mathlib.Logic.Basic

set_option autoImplicit false

namespace Hpc.Lib

variable {State Key Cell : Type} [DecidableEq Key] (look : State → Key → Cell) (valid : State → Prop)

-- An operation whose footprint is one cell of a keyed state: its result and what it leaves under its key are functions of
-- what was there, and no other cell changes.
structure Touches {Result : Type} (key : Key) (op : State → Result × State) : Prop where
  answers : ∃ answer : Cell → Result, ∀ state, valid state → (op state).1 = answer (look state key)
  changes : ∃ change : Cell → Cell, ∀ state, valid state → ∀ query,
    look (op state).2 query = if key = query then change (look state query) else look state query
  keeps : ∀ state, valid state → valid (op state).2

section Rules

variable {First Second : Type} (one two : Key) (first : State → First × State) (second : State → Second × State)

theorem touches_other (touches : Touches look valid one first) (state : State) (holds : valid state) (query : Key)
    (other : one ≠ query) : look (first state).2 query = look state query := by
  obtain ⟨change, changed⟩ := touches.changes
  rw [changed state holds query, if_neg other]

theorem touches_answer (touches : Touches look valid one first) (before after : State) (here : valid before)
    (there : valid after) (same : look before one = look after one) : (first before).1 = (first after).1 := by
  obtain ⟨answer, answered⟩ := touches.answers
  rw [answered before here, answered after there, same]

theorem touches_cell (touches : Touches look valid one first) (before after : State) (here : valid before)
    (there : valid after) (query : Key) (same : look before query = look after query) :
    look (first before).2 query = look (first after).2 query := by
  obtain ⟨change, changed⟩ := touches.changes
  rw [changed before here, changed after there, same]

theorem touches_commute (touchesOne : Touches look valid one first) (touchesTwo : Touches look valid two second)
    (apart : one ≠ two) (state : State) (holds : valid state) :
    (first (second state).2).1 = (first state).1 ∧ (second (first state).2).1 = (second state).1 ∧
      ∀ query, look (first (second state).2).2 query = look (second (first state).2).2 query := by
  have afterOne := touchesOne.keeps state holds
  have afterTwo := touchesTwo.keeps state holds
  refine ⟨?_, ?_, ?_⟩
  · apply touches_answer look valid one first touchesOne _ _ afterTwo holds
    exact touches_other look valid two second touchesTwo state holds one apart.symm
  · apply touches_answer look valid two second touchesTwo _ _ afterOne holds
    exact touches_other look valid one first touchesOne state holds two apart
  · intro query
    by_cases mine : one = query
    · have foreign : two ≠ query := fun same => apart (mine.trans same.symm)
      rw [touches_other look valid two second touchesTwo _ afterOne query foreign]
      apply touches_cell look valid one first touchesOne _ _ afterTwo holds
      exact touches_other look valid two second touchesTwo state holds query foreign
    · rw [touches_other look valid one first touchesOne _ afterTwo query mine]
      apply touches_cell look valid two second touchesTwo _ _ holds afterOne
      exact (touches_other look valid one first touchesOne state holds query mine).symm

end Rules

end Hpc.Lib
