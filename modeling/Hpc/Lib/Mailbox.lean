import Mathlib.Data.List.Basic

set_option autoImplicit false

namespace Hpc.Lib

-- A bounded first-in first-out channel whose receiver can be dropped. Besides the queue it keeps what was received and what
-- the drop discarded, so that everything ever pushed can be read off. A message is in one of the three.
structure Mailbox (α : Type) (capacity : Nat) where
  taken : List α
  queue : List α
  lost : List α
  closed : Bool
  fits : queue.length ≤ capacity
  spent : closed = true → queue = []
  kept : closed = false → lost = []

namespace Mailbox

variable {α : Type} {capacity : Nat}

def empty : Mailbox α capacity := ⟨[], [], [], false, Nat.zero_le _, fun _ => rfl, fun _ => rfl⟩

def pushed (box : Mailbox α capacity) : List α := box.taken ++ box.queue ++ box.lost

def push (box : Mailbox α capacity) (message : α) : Option (Mailbox α capacity) :=
  if room : box.closed = false ∧ box.queue.length < capacity then
    some ⟨box.taken, box.queue ++ [message], box.lost, box.closed,
      by simpa using Nat.succ_le_of_lt room.2, by simp [room.1], box.kept⟩
  else none

def pop (box : Mailbox α capacity) : Option (α × Mailbox α capacity) :=
  match shape : box.queue with
  | [] => none
  | message :: rest =>
      some (message, ⟨box.taken ++ [message], rest, box.lost, box.closed,
        by have fits := box.fits; simp only [shape, List.length_cons] at fits; omega,
        by intro closed; simp [box.spent closed] at shape, box.kept⟩)

-- Dropping the receiver discards what is still queued and refuses later sends.
def drop (box : Mailbox α capacity) : Mailbox α capacity :=
  ⟨box.taken, [], box.lost ++ box.queue, true, Nat.zero_le _, fun _ => rfl, by simp⟩

@[simp] theorem closed_drop (box : Mailbox α capacity) : box.drop.closed = true := rfl

@[simp] theorem pushed_drop (box : Mailbox α capacity) : box.drop.pushed = box.pushed := by
  cases closed : box.closed with
  | true => simp [pushed, drop, box.spent closed]
  | false => simp [pushed, drop, box.kept closed]

theorem push_spec (box next : Mailbox α capacity) (message : α) (sent : box.push message = some next) :
    box.closed = false ∧ box.queue.length < capacity ∧ next.taken = box.taken ∧
      next.queue = box.queue ++ [message] ∧ next.lost = box.lost ∧ next.closed = false ∧
      next.pushed = box.pushed ++ [message] := by
  rw [push] at sent
  split at sent
  · rename_i room
    cases sent
    exact ⟨room.1, room.2, rfl, rfl, rfl, room.1, by simp [pushed, box.kept room.1]⟩
  · cases sent

theorem pop_spec (box next : Mailbox α capacity) (message : α) (received : box.pop = some (message, next)) :
    box.queue = message :: next.queue ∧ next.taken = box.taken ++ [message] ∧
      next.lost = box.lost ∧ next.closed = box.closed ∧ next.pushed = box.pushed := by
  rw [pop] at received
  split at received
  · cases received
  · rename_i head rest shape
    simp only [Option.some.injEq, Prod.mk.injEq] at received
    obtain ⟨rfl, rfl⟩ := received
    exact ⟨shape, rfl, rfl, rfl, by simp [pushed, shape]⟩

theorem push_room (box : Mailbox α capacity) (message : α) (live : box.closed = false) (room : box.queue.length < capacity) :
    ∃ next, box.push message = some next := by
  rw [push, dif_pos ⟨live, room⟩]
  exact ⟨_, rfl⟩

theorem pop_ready (box : Mailbox α capacity) (message : α) (rest : List α) (queued : box.queue = message :: rest) :
    ∃ next, box.pop = some (message, next) ∧ next.queue = rest := by
  rw [pop]
  split
  · rename_i empty
    cases empty.symm.trans queued
  · rename_i head tail shape
    cases shape.symm.trans queued
    exact ⟨_, rfl, rfl⟩

theorem pushed_split (box : Mailbox α capacity) : box.pushed = box.taken ++ (box.queue ++ box.lost) := by
  simp [pushed]

end Mailbox

end Hpc.Lib
