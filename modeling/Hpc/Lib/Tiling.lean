import Mathlib.Data.List.Basic

set_option autoImplicit false

namespace Hpc.Lib

-- Blocks, each a start and a length, that lie apart and together cover all positions below the total and no other.
structure Tiles (blocks : List (Nat × Nat)) (total : Nat) : Prop where
  apart : blocks.Pairwise fun a b => a.1 + a.2 ≤ b.1 ∨ b.1 + b.2 ≤ a.1
  covers : ∀ position, (∃ block ∈ blocks, block.1 ≤ position ∧ position < block.1 + block.2) ↔ position < total

theorem tiles_range (count size : Nat) : Tiles ((List.range count).map fun i => (i * size, size)) (count * size) := by
  refine ⟨?_, ?_⟩
  · rw [List.pairwise_map]
    refine List.pairwise_lt_range.imp ?_
    intro i j before
    have next : (i + 1) * size ≤ j * size := Nat.mul_le_mul_right size before
    rw [Nat.succ_mul] at next
    exact Or.inl next
  · intro position
    apply Iff.intro
    · intro reached
      obtain ⟨_, member, _, below⟩ := reached
      obtain ⟨i, early, rfl⟩ := List.mem_map.mp member
      have next : (i + 1) * size ≤ count * size := Nat.mul_le_mul_right size (List.mem_range.mp early)
      rw [Nat.succ_mul] at next
      exact Nat.lt_of_lt_of_le below next
    · intro below
      have positive : 0 < size := by
        apply Nat.pos_of_ne_zero
        intro same
        subst same
        exact absurd below (Nat.not_lt_zero _)
      refine ⟨(position / size * size, size), List.mem_map.mpr ⟨position / size, ?_, rfl⟩, Nat.div_mul_le_self _ _, ?_⟩
      · exact List.mem_range.mpr (Nat.div_lt_of_lt_mul (Nat.mul_comm count size ▸ below))
      · have split := Nat.div_add_mod position size
        have rest := Nat.mod_lt position positive
        rw [Nat.mul_comm] at split
        change position < position / size * size + size
        omega

end Hpc.Lib
