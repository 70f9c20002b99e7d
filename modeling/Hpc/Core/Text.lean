import Mathlib.Algebra.Group.Nat.Defs
import Mathlib.Data.List.DropRight

set_option autoImplicit false

namespace Hpc.Core

-- char::is_whitespace: the characters with the Unicode property White_Space.
def isWhiteSpace (c : Char) : Bool :=
  let n := c.toNat
  (9 ≤ n && n ≤ 13) || n == 32 || n == 133 || n == 160 || n == 5760 || (8192 ≤ n && n ≤ 8202) || n == 8232 || n == 8233 ||
    n == 8239 || n == 8287 || n == 12288

-- The operations on texts that the readers of /proc use, after those of str; which characters are blank is a parameter.
section Text

variable (blank : Char → Bool)

def trim (text : List Char) : List Char := (text.dropWhile blank).rdropWhile blank

-- str::split_whitespace.
def words (text : List Char) : List (List Char) := (text.splitOnP blank).filter fun word => word != []

def splitOnce (separator : Char) : List Char → Option (List Char × List Char)
  | [] => none
  | c :: rest =>
      if c = separator then some ([], rest) else (splitOnce separator rest).map fun parts => (c :: parts.1, parts.2)

def stripReturn (line : List Char) : List Char := if line.getLast? = some '\r' then line.dropLast else line

-- str::lines: a carriage return goes with the line feed after it, and nothing follows the last line feed.
def lines (text : List Char) : List (List Char) :=
  let pieces := text.splitOn '\n'
  pieces.dropLast.map stripReturn ++ (pieces.getLast?.toList.filter fun line => line != [])

-- The digits of a number, after the sign that may stand before them.
def unsigned : List Char → List Char
  | '+' :: digits => digits
  | digits => digits

def parseU64 (word : List Char) : Option UInt64 :=
  let digits := unsigned word
  let value := digits.foldl (fun value c => 10 * value + (c.toNat - '0'.toNat)) 0
  if digits != [] ∧ digits.all Char.isDigit ∧ value < 2 ^ 64 then some (UInt64.ofNat value) else none

end Text

section Words

variable {blank : Char → Bool}

theorem words_nil : words blank [] = [] := by simp [words]

-- A blank ends a word wherever it stands; what the words of a text are follows from this.
theorem words_append_blank (before after : List Char) {c : Char} (isBlank : blank c = true) :
    words blank (before ++ c :: after) = words blank before ++ words blank after := by
  rw [words, List.splitOnP_append_cons before after isBlank, List.filter_append]
  rfl

theorem words_cons_blank (text : List Char) {c : Char} (isBlank : blank c = true) :
    words blank (c :: text) = words blank text := by
  have split : words blank ([] ++ c :: text) = words blank [] ++ words blank text := words_append_blank [] text isBlank
  rw [words_nil] at split
  exact split

theorem words_lead (lead text : List Char) (blanks : ∀ c ∈ lead, blank c = true) :
    words blank (lead ++ text) = words blank text := by
  induction lead with
  | nil => rfl
  | cons c rest ih =>
      rw [List.cons_append, words_cons_blank _ (blanks c (by simp))]
      exact ih fun d member => blanks d (by simp [member])

theorem words_trail (text trail : List Char) (blanks : ∀ c ∈ trail, blank c = true) :
    words blank (text ++ trail) = words blank text := by
  cases trail with
  | nil => rw [List.append_nil]
  | cons c rest =>
      have none : words blank rest = [] := by
        have all := words_lead rest [] fun d member => blanks d (by simp [member])
        rw [List.append_nil, words_nil] at all
        exact all
      rw [words_append_blank text rest (blanks c (by simp)), none, List.append_nil]

theorem words_single (word : List Char) (solid : ∀ c ∈ word, blank c = false) (nonempty : word ≠ []) :
    words blank word = [word] := by
  rw [words, List.splitOnP_eq_singleton solid]
  simp [nonempty]

theorem split_piece (text : List Char) {piece : List Char} (member : piece ∈ text.splitOnP blank) :
    ∀ c ∈ piece, c ∈ text ∧ blank c = false := by
  induction text generalizing piece with
  | nil =>
      rw [List.splitOnP_nil, List.mem_singleton] at member
      simp [member]
  | cons head rest ih =>
      rw [List.splitOnP_cons_eq_if_modifyHead] at member
      by_cases isBlank : blank head = true
      · rw [if_pos isBlank] at member
        cases List.mem_cons.mp member with
        | inl empty => simp [empty]
        | inr later =>
            intro c inside
            exact ⟨List.mem_cons_of_mem head (ih later c inside).1, (ih later c inside).2⟩
      · rw [if_neg isBlank] at member
        obtain ⟨first, others, split⟩ := List.exists_cons_of_ne_nil (List.splitOnP_ne_nil blank rest)
        rw [split] at member ih
        intro c inside
        cases List.mem_cons.mp member with
        | inl grown =>
            rw [grown] at inside
            cases List.mem_cons.mp inside with
            | inl same =>
                rw [same]
                exact ⟨List.mem_cons_self, eq_false_of_ne_true isBlank⟩
            | inr tail =>
                have found := ih List.mem_cons_self c tail
                exact ⟨List.mem_cons_of_mem head found.1, found.2⟩
        | inr later =>
            have found := ih (List.mem_cons_of_mem first later) c inside
            exact ⟨List.mem_cons_of_mem head found.1, found.2⟩

theorem words_column (word text : List Char) {c : Char} (isBlank : blank c = true) (solid : ∀ c ∈ word, blank c = false)
    (nonempty : word ≠ []) : words blank (word ++ c :: text) = word :: words blank text := by
  rw [words_append_blank word text isBlank, words_single word solid nonempty]
  rfl

theorem words_mem {text word : List Char} (member : word ∈ words blank text) :
    word ≠ [] ∧ ∀ c ∈ word, blank c = false := by
  have piece := List.mem_filter.mp member
  apply And.intro
  · simpa using piece.2
  · intro c inside
    exact (split_piece text piece.1 c inside).2

end Words

section Separators

variable (separator : Char)

theorem split_once_first (head rest : List Char) (absent : separator ∉ head) :
    splitOnce separator (head ++ separator :: rest) = some (head, rest) := by
  induction head with
  | nil => simp [splitOnce]
  | cons c tail ih =>
      obtain ⟨other, later⟩ := List.ne_and_not_mem_of_not_mem_cons absent
      rw [List.cons_append, splitOnce, if_neg (Ne.symm other), ih later, Option.map_some]

theorem split_once_absent (text : List Char) (absent : separator ∉ text) : splitOnce separator text = none := by
  induction text with
  | nil => rfl
  | cons c tail ih =>
      obtain ⟨other, later⟩ := List.ne_and_not_mem_of_not_mem_cons absent
      rw [splitOnce, if_neg (Ne.symm other), ih later, Option.map_none]

theorem split_once_iff (text head rest : List Char) :
    splitOnce separator text = some (head, rest) ↔ text = head ++ separator :: rest ∧ separator ∉ head := by
  apply Iff.intro
  · intro found
    induction text generalizing head with
    | nil => cases found
    | cons c tail ih =>
        rw [splitOnce] at found
        split at found
        · rename_i same
          cases found
          exact ⟨by rw [same, List.nil_append], List.not_mem_nil⟩
        · rename_i other
          obtain ⟨⟨front, back⟩, later, parts⟩ := Option.map_eq_some_iff.mp found
          cases parts
          obtain ⟨whole, absent⟩ := ih front later
          exact ⟨by rw [whole, List.cons_append], List.not_mem_cons_of_ne_of_not_mem (Ne.symm other) absent⟩
  · rintro ⟨rfl, absent⟩
    exact split_once_first separator head rest absent

theorem split_once_append (text trail : List Char) (absent : separator ∉ trail) :
    splitOnce separator (text ++ trail) = (splitOnce separator text).map fun parts => (parts.1, parts.2 ++ trail) := by
  induction text with
  | nil => exact split_once_absent separator trail absent
  | cons c tail ih =>
      rw [List.cons_append, splitOnce, splitOnce]
      by_cases same : c = separator
      · rw [if_pos same, if_pos same, Option.map_some]
      · rw [if_neg same, if_neg same, ih, Option.map_map, Option.map_map]
        rfl

theorem mem_intercalate (pieces : List (List Char)) (c : Char) (member : c ∈ [separator].intercalate pieces) :
    c = separator ∨ ∃ piece ∈ pieces, c ∈ piece := by
  induction pieces with
  | nil => cases member
  | cons first rest ih =>
      cases rest with
      | nil =>
          rw [List.intercalate_singleton] at member
          exact Or.inr ⟨first, List.mem_cons_self, member⟩
      | cons second others =>
          rw [List.intercalate_cons_cons, List.append_assoc] at member
          cases List.mem_append.mp member with
          | inl inside => exact Or.inr ⟨first, List.mem_cons_self, inside⟩
          | inr later =>
              cases List.mem_cons.mp later with
              | inl same => exact Or.inl same
              | inr tail =>
                  cases ih tail with
                  | inl same => exact Or.inl same
                  | inr found =>
                      obtain ⟨piece, here, inside⟩ := found
                      exact Or.inr ⟨piece, List.mem_cons_of_mem _ here, inside⟩

end Separators

theorem trim_solid {blank : Char → Bool} (lead text : List Char) (blanks : ∀ c ∈ lead, blank c = true)
    (solid : ∀ c ∈ text, blank c = false) : trim blank (lead ++ text) = text := by
  have front : (lead ++ text).dropWhile blank = text.dropWhile blank := List.dropWhile_append_of_pos blanks
  rw [trim, front]
  cases text with
  | nil => rfl
  | cons c rest =>
      rw [List.dropWhile_cons_of_neg (by simp [solid c (by simp)]), List.rdropWhile_eq_self_iff]
      intro nonempty
      simp [solid _ (List.getLast_mem nonempty)]

section Numbers

def digits (value : UInt64) : List Char := Nat.toDigits 10 value.toNat

theorem digits_digit (value : UInt64) : ∀ c ∈ digits value, c.isDigit = true := by
  intro c member
  exact Nat.isDigit_of_mem_toDigits (by decide) (by decide) member

theorem digits_nonempty (value : UInt64) : digits value ≠ [] := Nat.toDigits_ne_nil

theorem unsigned_digits (value : UInt64) : unsigned (digits value) = digits value := by
  have digit := digits_digit value
  cases shape : digits value with
  | nil => rfl
  | cons c rest =>
      have first := digit c (by simp [shape])
      have plain : c ≠ '+' := by
        intro same
        rw [same] at first
        cases first
      rw [unsigned]
      intro tail signed
      exact plain (List.cons.inj signed).1

theorem parse_digits (value : UInt64) : parseU64 (digits value) = some value := by
  have read : (digits value).foldl (fun value c => 10 * value + (c.toNat - '0'.toNat)) 0 = value.toNat := by
    rw [← Nat.ofDigitChars_eq_foldl]
    exact Nat.ofDigitChars_ten_toDigits
  have fits : value.toNat < 2 ^ 64 := UInt64.toNat_lt value
  have decimal : (digits value).all Char.isDigit = true := List.all_eq_true.mpr (digits_digit value)
  simp only [parseU64, unsigned_digits, read]
  rw [if_pos ⟨by simp [digits_nonempty], decimal, fits⟩, UInt64.ofNat_toNat]

end Numbers

-- A reader of lines that does not see a carriage return at the end of one and makes nothing of an empty one reads the
-- pieces between the line feeds.
section Lines

variable {A : Type} (row : List Char → Option A)

theorem strip_return_cases (line : List Char) : line = stripReturn line ∨ line = stripReturn line ++ ['\r'] := by
  rw [stripReturn]
  by_cases returned : line.getLast? = some '\r'
  · right
    rw [if_pos returned]
    obtain ⟨front, shape⟩ := List.getLast?_eq_some_iff.mp returned
    rw [shape, List.dropLast_concat]
  · left
    rw [if_neg returned]

theorem lines_filter_map (empty : row [] = none) (stripped : ∀ line, row (stripReturn line) = row line)
    (text : List Char) : (lines text).filterMap row = (text.splitOn '\n').filterMap row := by
  obtain ⟨front, last, pieces⟩ : ∃ front last, text.splitOn '\n' = front ++ [last] :=
    ⟨_, _, (List.dropLast_concat_getLast (List.splitOn_ne_nil '\n' text)).symm⟩
  have ended : ([last].filter fun line => line != []).filterMap row = [last].filterMap row := by
    by_cases bare : last = []
    · simp [bare, empty]
    · simp [bare]
  have returns : (front.map stripReturn).filterMap row = front.filterMap row := by
    rw [List.filterMap_map]
    exact List.filterMap_congr fun line _ => stripped line
  rw [lines, pieces, List.dropLast_concat, List.getLast?_concat, List.filterMap_append, List.filterMap_append, returns]
  exact congrArg _ ended

theorem lines_intercalate (empty : row [] = none) (stripped : ∀ line, row (stripReturn line) = row line)
    (written : List (List Char)) (unbroken : ∀ line ∈ written, '\n' ∉ line) :
    (lines (List.intercalate ['\n'] written)).filterMap row = written.filterMap row := by
  cases written with
  | nil => rfl
  | cons first rest =>
      rw [lines_filter_map row empty stripped, List.splitOn_intercalate '\n' unbroken (List.cons_ne_nil _ _)]

end Lines

end Hpc.Core
