import Hpc.Ffi.BlockIo

set_option autoImplicit false

namespace Hpc.Ffi

open Hpc.Lib

section Streams

-- The calls answer one after the other from a stream of results, whatever is asked. A write takes as many bytes as the
-- result has.
def streamCalls (result : Nat → Transfer (List UInt8)) : Calls Nat where
  pread _ _ _ i := (result i, i + 1)
  pwrite _ _ _ i :=
    match result i with
    | .moved bytes => (.moved bytes.length, i + 1)
    | .failed errno => (.failed errno, i + 1)

def Transfer.size : Transfer (List UInt8) → Nat
  | .moved bytes => bytes.length
  | .failed _ => 0

def Transfer.Proceeds (result : Transfer (List UInt8)) : Prop := ∀ errno, result = .failed errno → errno = EINTR

def arrived (result : Nat → Transfer (List UInt8)) : Nat → Nat
  | 0 => 0
  | i + 1 => arrived result i + (result i).size

-- Only finitely many interruptions, and, as long as a loop goes on, no more bytes in a result than it has asked for.
structure Results (len : Nat) where
  result : Nat → Transfer (List UInt8)
  uninterrupted : Nat
  settled : ∀ i, uninterrupted ≤ i → result i ≠ .failed EINTR
  within : ∀ i, (∀ j, j < i → (result j).Proceeds) → arrived result i < len → arrived result (i + 1) ≤ len

-- From some call on nothing but transfers of zero bytes, with bytes still missing and no error so far.
def Stalls {len : Nat} (stream : Results len) : Prop :=
  ∃ i, (∀ j, j < i → (stream.result j).Proceeds) ∧ arrived stream.result i < len ∧
    ∀ j, i ≤ j → stream.result j = .moved []

theorem arrived_mono (result : Nat → Transfer (List UInt8)) (i j : Nat) (later : i ≤ j) :
    arrived result i ≤ arrived result j := by
  induction later with
  | refl => exact Nat.le_refl _
  | step _ ih => exact Nat.le_trans ih (Nat.le_add_right _ _)

theorem arrived_settles (result : Nat → Transfer (List UInt8)) (len : Nat) (bounded : ∀ i, arrived result i < len) (i : Nat) :
    ∃ last, i ≤ last ∧ ∀ j, last ≤ j → (result j).size = 0 := by
  induction gap : len - arrived result i using Nat.strongRecOn generalizing i with
  | ind gap ih =>
      by_cases quiet : ∀ j, i ≤ j → (result j).size = 0
      · exact ⟨i, Nat.le_refl i, quiet⟩
      · rw [Classical.not_forall] at quiet
        obtain ⟨j, moving⟩ := quiet
        rw [Classical.not_imp] at moving
        obtain ⟨later, some_bytes⟩ := moving
        have before := arrived_mono result i j later
        have more : arrived result (j + 1) = arrived result j + (result j).size := rfl
        have room := bounded (j + 1)
        obtain ⟨last, after, settled⟩ := ih (len - arrived result (j + 1)) (by omega) (j + 1) rfl
        exact ⟨last, by omega, settled⟩

end Streams

section Reading

variable (fd : Int32) (offset : Int64)

-- Every round of the read loop ends it, or uses up an interruption or some of the bytes still to come.
theorem read_from_returns {len : Nat} (stream : Results len) (rounds i : Nat) (held : List UInt8)
    (size : held.length = len) (proceeds : ∀ j, j < i → (stream.result j).Proceeds)
    (room : arrived stream.result i ≤ len)
    (budget : (stream.uninterrupted - i) + (len - arrived stream.result i) < rounds) :
    (readFrom (streamCalls stream.result) fd offset rounds i held (arrived stream.result i)).isSome := by
  induction rounds generalizing i held with
  | zero => omega
  | succ rounds ih =>
      rw [readFrom, size]
      by_cases more : arrived stream.result i < len
      · rw [if_pos more, streamCalls]
        dsimp only
        have fitting := stream.within i proceeds more
        have next : ∀ outcome, stream.result i = outcome → outcome.Proceeds → ∀ j, j < i + 1 → (stream.result j).Proceeds := by
          intro outcome here goes j before
          rcases Nat.lt_succ_iff_lt_or_eq.mp before with earlier | rfl
          · exact proceeds j earlier
          · exact here ▸ goes
        have total : arrived stream.result (i + 1) = arrived stream.result i + (stream.result i).size := rfl
        cases here : stream.result i with
        | failed errno =>
            dsimp only
            rw [here] at total
            by_cases interrupted : errno = EINTR
            · rw [if_pos interrupted]
              subst interrupted
              have early : i < stream.uninterrupted := by
                apply Nat.lt_of_not_le
                exact fun late => stream.settled i late here
              have goes : (Transfer.failed EINTR : Transfer (List UInt8)).Proceeds := fun errno same => by cases same; rfl
              have same : arrived stream.result (i + 1) = arrived stream.result i := total
              have later := ih (i + 1) held size (next _ here goes) fitting (by omega)
              rwa [same] at later
            · rw [if_neg interrupted]
              rfl
        | moved bytes =>
            cases bytes with
            | nil => rfl
            | cons byte rest =>
                dsimp only
                rw [here] at total
                have goes : (Transfer.moved (byte :: rest)).Proceeds := fun errno same => by cases same
                have same : arrived stream.result (i + 1) = arrived stream.result i + (byte :: rest).length := total
                have kept : (splice 0 held (arrived stream.result i) (byte :: rest)).length = len := by
                  rw [splice_within _ _ _ _ (by omega), size]
                rw [List.length_cons] at same
                have later := ih (i + 1) _ kept (next _ here goes) fitting (by omega)
                rwa [same] at later
      · rw [if_neg more]
        rfl

end Reading

section Writing

variable (fd : Int32) (offset : Int64) (buf : List UInt8) (stream : Results buf.length)

theorem stream_write_failed (result : Nat → Transfer (List UInt8)) (data : List UInt8) (i : Nat) (errno : Errno)
    (here : result i = .failed errno) : (streamCalls result).pwrite fd data offset i = (.failed errno, i + 1) := by
  rw [streamCalls]
  dsimp only
  rw [here]

theorem stream_write_moved (result : Nat → Transfer (List UInt8)) (data : List UInt8) (i : Nat) (bytes : List UInt8)
    (here : result i = .moved bytes) : (streamCalls result).pwrite fd data offset i = (.moved bytes.length, i + 1) := by
  rw [streamCalls]
  dsimp only
  rw [here]

theorem write_from_step (rounds i : Nat) (more : arrived stream.result i < buf.length)
    (goes : (stream.result i).Proceeds) :
    writeFrom (streamCalls stream.result) fd offset buf (rounds + 1) i (arrived stream.result i) =
      writeFrom (streamCalls stream.result) fd offset buf rounds (i + 1) (arrived stream.result (i + 1)) := by
  have total : arrived stream.result (i + 1) = arrived stream.result i + (stream.result i).size := rfl
  rw [writeFrom, if_pos more]
  cases here : stream.result i with
  | failed errno =>
      rw [stream_write_failed fd _ _ _ i errno here, total, here]
      dsimp only
      rw [if_pos (goes errno here)]
      rfl
  | moved bytes =>
      rw [stream_write_moved fd _ _ _ i bytes here, total, here]
      rfl

theorem write_from_reaches (rounds i : Nat) (proceeds : ∀ j, j < i → (stream.result j).Proceeds)
    (missing : ∀ j, j < i → arrived stream.result j < buf.length) :
    writeFrom (streamCalls stream.result) fd offset buf (i + rounds) 0 0 =
      writeFrom (streamCalls stream.result) fd offset buf rounds i (arrived stream.result i) := by
  induction i generalizing rounds with
  | zero =>
      rw [Nat.zero_add]
      rfl
  | succ i ih =>
      have before := ih (rounds + 1) (fun j early => proceeds j (by omega)) (fun j early => missing j (by omega))
      rw [Nat.add_right_comm, Nat.add_assoc, before]
      exact write_from_step fd offset buf stream rounds i (missing i (by omega)) (proceeds i (by omega))

theorem endless_write_proceeds (endless : ∀ rounds, writeFrom (streamCalls stream.result) fd offset buf rounds 0 0 = none)
    (i : Nat) : (stream.result i).Proceeds ∧ arrived stream.result i < buf.length := by
  induction i using Nat.strongRecOn with
  | ind i ih =>
      have reached := write_from_reaches fd offset buf stream 1 i (fun j early => (ih j early).1) fun j early => (ih j early).2
      rw [endless, writeFrom] at reached
      by_cases more : arrived stream.result i < buf.length
      · refine ⟨?_, more⟩
        intro errno failed
        rw [if_pos more, stream_write_failed fd _ _ _ i errno failed] at reached
        by_contra hard
        dsimp only at reached
        rw [if_neg hard] at reached
        cases reached
      · rw [if_neg more] at reached
        cases reached

theorem endless_write_stalls (endless : ∀ rounds, writeFrom (streamCalls stream.result) fd offset buf rounds 0 0 = none) :
    Stalls stream := by
  have always := endless_write_proceeds fd offset buf stream endless
  obtain ⟨last, late, quiet⟩ :=
    arrived_settles stream.result buf.length (fun i => (always i).2) stream.uninterrupted
  refine ⟨last, fun j _ => (always j).1, (always last).2, ?_⟩
  intro j later
  cases here : stream.result j with
  | failed errno =>
      have interrupted := (always j).1 errno here
      exact absurd (interrupted ▸ here) (stream.settled j (by omega))
  | moved bytes =>
      have empty := quiet j later
      rw [here] at empty
      rw [List.eq_nil_of_length_eq_zero empty]

theorem write_from_more_rounds (calls : Calls Nat) (rounds extra i done : Nat) (answer : Int64 × Nat)
    (returned : writeFrom calls fd offset buf rounds i done = some answer) :
    writeFrom calls fd offset buf (rounds + extra) i done = some answer := by
  induction rounds generalizing i done with
  | zero => cases returned
  | succ rounds ih =>
      rw [Nat.add_right_comm, writeFrom]
      rw [writeFrom] at returned
      by_cases more : done < buf.length
      · rw [if_pos more] at returned ⊢
        cases called : calls.pwrite fd (buf.drop done) (offset + Int64.ofNat done) i with
        | mk outcome next =>
            rw [called] at returned
            cases outcome with
            | failed errno =>
                dsimp only at returned ⊢
                by_cases interrupted : errno = EINTR
                · rw [if_pos interrupted] at returned ⊢
                  exact ih next done returned
                · rw [if_neg interrupted] at returned ⊢
                  exact returned
            | moved n => exact ih next (done + n) returned
      · rw [if_neg more] at returned ⊢
        exact returned

theorem stalled_write_endless (stalled : Stalls stream) (rounds : Nat) :
    writeFrom (streamCalls stream.result) fd offset buf rounds 0 0 = none := by
  obtain ⟨i, proceeds, missing, quiet⟩ := stalled
  have reached := fun rounds => write_from_reaches fd offset buf stream rounds i proceeds
    fun j early => Nat.lt_of_le_of_lt (arrived_mono _ j i (Nat.le_of_lt early)) missing
  have spins : ∀ rounds j, i ≤ j → writeFrom (streamCalls stream.result) fd offset buf rounds j (arrived stream.result i) = none := by
    intro rounds
    induction rounds with
    | zero => exact fun j later => rfl
    | succ rounds ih =>
        intro j later
        rw [writeFrom, if_pos missing, stream_write_moved fd _ _ _ j [] (quiet j later)]
        exact ih (j + 1) (by omega)
  cases returned : writeFrom (streamCalls stream.result) fd offset buf rounds 0 0 with
  | none => rfl
  | some answer =>
      have same := write_from_more_rounds fd offset buf _ rounds i 0 0 answer returned
      rw [Nat.add_comm, reached rounds, spins rounds i (Nat.le_refl i)] at same
      cases same

theorem write_from_answers (rounds i : Nat) (answer : Int64 × Nat) (proceeds : ∀ j, j < i → (stream.result j).Proceeds)
    (room : arrived stream.result i ≤ buf.length)
    (returned : writeFrom (streamCalls stream.result) fd offset buf rounds i (arrived stream.result i) = some answer) :
    answer.1 = Int64.ofNat buf.length ∨ ∃ errno, answer.1 = negated errno := by
  induction rounds generalizing i with
  | zero => cases returned
  | succ rounds ih =>
      by_cases more : arrived stream.result i < buf.length
      · by_cases goes : (stream.result i).Proceeds
        · rw [write_from_step fd offset buf stream rounds i more goes] at returned
          refine ih (i + 1) ?_ (stream.within i proceeds more) returned
          intro j before
          rcases Nat.lt_succ_iff_lt_or_eq.mp before with earlier | rfl
          · exact proceeds j earlier
          · exact goes
        · rw [Transfer.Proceeds, Classical.not_forall] at goes
          obtain ⟨errno, hard⟩ := goes
          rw [Classical.not_imp] at hard
          rw [writeFrom, if_pos more, stream_write_failed fd _ _ _ i errno hard.1] at returned
          dsimp only at returned
          rw [if_neg hard.2] at returned
          cases returned
          exact Or.inr ⟨errno, rfl⟩
      · rw [writeFrom, if_neg more] at returned
        cases returned
        exact Or.inl (by rw [Nat.le_antisymm room (Nat.le_of_not_lt more)])

structure Terminates : Prop where
  read : ∃ rounds answer, hpcReadBlock (streamCalls stream.result) fd offset rounds buf 0 = some answer
  write : ∃ rounds ret last, hpcWriteBlock (streamCalls stream.result) fd offset rounds buf 0 = some (ret, last) ∧
    (ret = Int64.ofNat buf.length ∨ ∃ errno, ret = negated errno)

theorem terminates_iff : Terminates fd offset buf stream ↔ ¬ Stalls stream := by
  apply Iff.intro
  · intro terminates stalled
    obtain ⟨rounds, ret, last, returned, _⟩ := terminates.write
    rw [hpcWriteBlock, stalled_write_endless fd offset buf stream stalled rounds] at returned
    cases returned
  · intro moving
    apply Terminates.mk
    · refine ⟨stream.uninterrupted + buf.length + 1, Option.isSome_iff_exists.mp ?_⟩
      exact read_from_returns fd offset stream _ 0 buf rfl (fun j early => absurd early (Nat.not_lt_zero j)) (Nat.zero_le _)
        (Nat.lt_succ_self _)
    · by_cases endless : ∀ rounds, writeFrom (streamCalls stream.result) fd offset buf rounds 0 0 = none
      · exact absurd (endless_write_stalls fd offset buf stream endless) moving
      · rw [Classical.not_forall] at endless
        obtain ⟨rounds, ended⟩ := endless
        obtain ⟨⟨ret, last⟩, returned⟩ := Option.ne_none_iff_exists'.mp ended
        refine ⟨rounds, ret, last, returned, ?_⟩
        exact write_from_answers fd offset buf stream rounds 0 (ret, last) (fun j early => absurd early (Nat.not_lt_zero j))
          (Nat.zero_le _) returned

end Writing

section Samples

def zeroResults : Results 1 where
  result _ := .moved []
  uninterrupted := 0
  settled _ _ same := by cases same
  within i _ missing := Nat.le_of_lt missing

theorem zero_write_endless :
    (∀ rounds, hpcWriteBlock (streamCalls zeroResults.result) 3 0 rounds [7] 0 = none) ∧
      ¬ Terminates 3 0 [7] zeroResults := by
  have stalled : Stalls zeroResults :=
    ⟨0, fun j early => absurd early (Nat.not_lt_zero j), Nat.one_pos, fun _ _ => rfl⟩
  have endless := stalled_write_endless 3 0 [7] zeroResults stalled
  apply And.intro endless
  intro terminates
  obtain ⟨rounds, ret, last, returned, _⟩ := terminates.write
  rw [hpcWriteBlock, endless rounds] at returned
  cases returned

end Samples

end Hpc.Ffi
