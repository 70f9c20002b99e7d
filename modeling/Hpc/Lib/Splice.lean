import Mathlib.Data.List.Basic

set_option autoImplicit false

namespace Hpc.Lib

variable {Byte : Type}

-- What a positioned write leaves: the data in place, the gap before it filled, the rest as it was. Writing nothing does not
-- extend the content.
def splice (fill : Byte) (content : List Byte) (offset : Nat) : List Byte → List Byte
  | [] => content
  | byte :: rest =>
      content.take offset ++ List.replicate (offset - content.length) fill ++ byte :: rest ++
        content.drop (offset + (byte :: rest).length)

-- What a positioned read finds: fewer bytes than asked for only at the end of the content.
def slice (content : List Byte) (offset len : Nat) : List Byte := (content.drop offset).take len

theorem slice_length (content : List Byte) (offset len : Nat) :
    (slice content offset len).length = min len (content.length - offset) := by
  rw [slice, List.length_take, List.length_drop]

theorem slice_append (content : List Byte) (offset first second : Nat) :
    slice content offset first ++ slice content (offset + first) second = slice content offset (first + second) := by
  rw [slice, slice, slice, ← List.drop_drop, List.take_add]

variable (fill : Byte) (content : List Byte) (offset : Nat)

theorem splice_nil : splice fill content offset [] = content := rfl

theorem splice_eq (data : List Byte) (some_data : data ≠ []) :
    splice fill content offset data = content.take offset ++ List.replicate (offset - content.length) fill ++ data ++
      content.drop (offset + data.length) := by
  cases data with
  | nil => exact absurd rfl some_data
  | cons byte rest => rfl

theorem head_length : (content.take offset ++ List.replicate (offset - content.length) fill).length = offset := by
  rw [List.length_append, List.length_take, List.length_replicate]
  omega

theorem head_byte (i : Nat) (before : i < offset) :
    (content.take offset ++ List.replicate (offset - content.length) fill)[i]? =
      if i < content.length then content[i]? else some fill := by
  by_cases inside : i < content.length
  · have first : i < (content.take offset).length := by
      rw [List.length_take]
      exact Nat.lt_min.mpr ⟨before, inside⟩
    rw [if_pos inside, List.getElem?_append_left first, List.getElem?_take_of_lt before]
  · have short : (content.take offset).length = content.length := by
      rw [List.length_take]
      omega
    rw [if_neg inside, List.getElem?_append_right (by omega), short, List.getElem?_replicate_of_lt (by omega)]

theorem splice_byte (data : List Byte) (some_data : data ≠ []) (i : Nat) :
    (splice fill content offset data)[i]? =
      if i < offset then if i < content.length then content[i]? else some fill
      else if i < offset + data.length then data[i - offset]? else content[i]? := by
  rw [splice_eq fill content offset data some_data, List.append_assoc]
  by_cases before : i < offset
  · rw [if_pos before, List.getElem?_append_left ((head_length fill content offset).symm ▸ before)]
    exact head_byte fill content offset i before
  · rw [if_neg before, List.getElem?_append_right (by rw [head_length]; omega), head_length]
    by_cases within : i < offset + data.length
    · rw [if_pos within, List.getElem?_append_left (by omega)]
    · rw [if_neg within, List.getElem?_append_right (by omega), List.getElem?_drop]
      congr 1
      omega

theorem splice_length (data : List Byte) (some_data : data ≠ []) :
    (splice fill content offset data).length = max content.length (offset + data.length) := by
  rw [splice_eq fill content offset data some_data]
  simp only [List.length_append, List.length_take, List.length_replicate, List.length_drop]
  omega

theorem splice_append (front back : List Byte) :
    splice fill (splice fill content offset front) (offset + front.length) back =
      splice fill content offset (front ++ back) := by
  by_cases no_front : front = []
  · rw [no_front, splice_nil]
    rfl
  · by_cases no_back : back = []
    · rw [no_back, splice_nil, List.append_nil]
    · apply List.ext_getElem?
      intro i
      have joined : front ++ back ≠ [] := List.append_ne_nil_of_left_ne_nil no_front back
      rw [splice_byte _ _ _ _ no_back, splice_byte _ _ _ _ no_front, splice_byte _ _ _ _ joined,
        splice_length _ _ _ _ no_front]
      grind

theorem slice_splice (data : List Byte) : slice (splice fill content offset data) offset data.length = data := by
  by_cases none : data = []
  · rw [none]
    exact List.take_zero
  · rw [slice, splice_eq _ _ _ _ none, List.append_assoc, List.drop_left' (head_length fill content offset), List.take_left]

theorem splice_seam (front back data : List Byte) :
    splice fill (front ++ back) front.length data = front ++ data ++ back.drop data.length := by
  by_cases none : data = []
  · rw [none, splice_nil, List.append_nil]
    rfl
  · have reached : front.length - (front ++ back).length = 0 := by
      rw [List.length_append]
      omega
    rw [splice_eq _ _ _ _ none, List.take_left, reached, List.replicate_zero, List.append_nil, ← List.drop_drop,
      List.drop_left]

theorem splice_within (data : List Byte) (fits : offset + data.length ≤ content.length) :
    (splice fill content offset data).length = content.length := by
  by_cases none : data = []
  · rw [none, splice_nil]
  · rw [splice_length _ _ _ _ none]
    exact Nat.max_eq_left fits

theorem splice_grows (data : List Byte) : content.length ≤ (splice fill content offset data).length := by
  by_cases none : data = []
  · rw [none]
    exact Nat.le_refl _
  · rw [splice_length _ _ _ _ none]
    exact Nat.le_max_left _ _

theorem slice_splice_apart (data : List Byte) (start len : Nat) (inside : start + len ≤ content.length)
    (apart : start + len ≤ offset ∨ offset + data.length ≤ start) :
    slice (splice fill content offset data) start len = slice content start len := by
  by_cases none : data = []
  · rw [none, splice_nil]
  · apply List.ext_getElem?
    intro i
    rw [slice, slice, List.getElem?_take, List.getElem?_take, List.getElem?_drop, List.getElem?_drop,
      splice_byte _ _ _ _ none]
    grind

end Hpc.Lib
