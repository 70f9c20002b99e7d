import Hpc.Core.Text

set_option autoImplicit false

namespace Hpc.Core

-- A line laid out in columns: words that hold no blank, with any blanks around them and at least one between two of them.
structure Word (blank : Char → Bool) where
  chars : List Char
  nonempty : chars ≠ []
  solid : ∀ c ∈ chars, blank c = false

structure Blanks (blank : Char → Bool) where
  chars : List Char
  blanks : ∀ c ∈ chars, blank c = true
  unbroken : '\n' ∉ chars

structure Gap (blank : Char → Bool) extends Blanks blank where
  nonempty : chars ≠ []

structure Spacing (blank : Char → Bool) where
  lead : Blanks blank
  gap : Nat → Gap blank
  trail : Blanks blank

section Layout

variable {blank : Char → Bool}

def spread (gap : Nat → Gap blank) : List (Word blank) → List Char
  | [] => []
  | word :: rest => (gap 0).chars ++ (word.chars ++ spread (fun column => gap (column + 1)) rest)

def Spacing.write (spacing : Spacing blank) : List (Word blank) → List Char
  | [] => spacing.lead.chars ++ spacing.trail.chars
  | first :: rest => spacing.lead.chars ++ (first.chars ++ spread spacing.gap rest) ++ spacing.trail.chars

theorem words_gap (word : Word blank) (gap : Gap blank) (text : List Char) :
    words blank (word.chars ++ (gap.chars ++ text)) = word.chars :: words blank text := by
  obtain ⟨c, rest, shape⟩ := List.exists_cons_of_ne_nil gap.nonempty
  have blanks := gap.blanks
  rw [shape] at blanks
  rw [shape, List.cons_append, words_column word.chars _ (blanks c (by simp)) word.solid word.nonempty,
    words_lead rest text fun d member => blanks d (by simp [member])]

theorem words_spread (first : Word blank) (rest : List (Word blank)) (gap : Nat → Gap blank) :
    words blank (first.chars ++ spread gap rest) = (first :: rest).map Word.chars := by
  induction rest generalizing first gap with
  | nil =>
      rw [spread, List.append_nil]
      exact words_single first.chars first.solid first.nonempty
  | cons next rest ih =>
      rw [spread, words_gap, ih]
      rfl

theorem words_write (spacing : Spacing blank) (columns : List (Word blank)) :
    words blank (spacing.write columns) = columns.map Word.chars := by
  cases columns with
  | nil =>
      rw [Spacing.write, words_lead _ _ spacing.lead.blanks, ← List.nil_append spacing.trail.chars,
        words_trail _ _ spacing.trail.blanks, words_nil]
      rfl
  | cons first rest =>
      rw [Spacing.write, words_trail _ _ spacing.trail.blanks, words_lead _ _ spacing.lead.blanks, words_spread]

theorem word_unbroken (newline : blank '\n' = true) (word : Word blank) : '\n' ∉ word.chars := by
  intro broken
  have solid := word.solid '\n' broken
  rw [newline] at solid
  cases solid

theorem spread_unbroken (newline : blank '\n' = true) (columns : List (Word blank)) (gap : Nat → Gap blank) :
    '\n' ∉ spread gap columns := by
  induction columns generalizing gap with
  | nil => exact List.not_mem_nil
  | cons first rest ih => simp [spread, (gap 0).unbroken, word_unbroken newline first, ih]

theorem write_unbroken (newline : blank '\n' = true) (spacing : Spacing blank) (columns : List (Word blank)) :
    '\n' ∉ spacing.write columns := by
  cases columns with
  | nil => simp [Spacing.write, spacing.lead.unbroken, spacing.trail.unbroken]
  | cons first rest =>
      simp [Spacing.write, spacing.lead.unbroken, spacing.trail.unbroken, word_unbroken newline first,
        spread_unbroken newline rest]

end Layout

section WhiteSpace

theorem newline_blank : isWhiteSpace '\n' = true := rfl

theorem return_blank : isWhiteSpace '\r' = true := rfl

theorem digit_solid (c : Char) (digit : c.isDigit = true) : isWhiteSpace c = false := by
  simp only [Char.isDigit, Bool.and_eq_true, decide_eq_true_eq, UInt32.le_iff_toNat_le] at digit
  have low : 48 ≤ c.toNat := digit.1
  have high : c.toNat ≤ 57 := digit.2
  simp only [isWhiteSpace, Bool.or_eq_false_iff, Bool.and_eq_false_iff, decide_eq_false_iff_not, beq_eq_false_iff_ne]
  omega

def Word.ofU64 (value : UInt64) : Word isWhiteSpace where
  chars := digits value
  nonempty := digits_nonempty value
  solid := fun c member => digit_solid c (digits_digit value c member)

theorem all_solid (chars : List Char) (checked : (chars.all fun c => !isWhiteSpace c) = true) :
    ∀ c ∈ chars, isWhiteSpace c = false := by
  intro c member
  simpa using List.all_eq_true.mp checked c member

def Blanks.none : Blanks isWhiteSpace := ⟨[], by simp, by simp⟩

theorem space_blank : isWhiteSpace ' ' = true := rfl

def Gap.space : Gap isWhiteSpace := ⟨⟨[' '], by simp [space_blank], by simp⟩, by simp⟩

def Spacing.single : Spacing isWhiteSpace := ⟨.none, fun _ => .space, .none⟩

theorem words_strip_return (line : List Char) : words isWhiteSpace (stripReturn line) = words isWhiteSpace line := by
  cases strip_return_cases line with
  | inl same => rw [← same]
  | inr returned =>
      have trailed : words isWhiteSpace (stripReturn line ++ ['\r']) = words isWhiteSpace (stripReturn line) :=
        words_trail (stripReturn line) ['\r'] (by simp [return_blank])
      rw [← returned] at trailed
      exact trailed.symm

theorem split_once_strip_return (line : List Char) :
    (splitOnce ':' (stripReturn line)).map (fun parts => (parts.1, words isWhiteSpace parts.2)) =
      (splitOnce ':' line).map fun parts => (parts.1, words isWhiteSpace parts.2) := by
  cases strip_return_cases line with
  | inl same => rw [← same]
  | inr returned =>
      have appended := split_once_append ':' (stripReturn line) ['\r'] (by simp)
      rw [← returned] at appended
      rw [appended, Option.map_map]
      apply congrFun (congrArg Option.map _)
      funext parts
      exact congrArg _ (words_trail parts.2 ['\r'] (by simp [return_blank])).symm

end WhiteSpace

end Hpc.Core
