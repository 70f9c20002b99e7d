import Hpc.Diag.Proc

set_option autoImplicit false

namespace Hpc.Diag

open Hpc.Core

def encodeChar (c : Char) : List Char :=
  if c = ' ' then ['\\', '0', '4', '0']
  else if c = '\t' then ['\\', '0', '1', '1']
  else if c = '\n' then ['\\', '0', '1', '2']
  else if c = '\\' then ['\\', '1', '3', '4']
  else [c]

def encode (field : List Char) : List Char := field.flatMap encodeChar

structure Mount where
  device : List Char
  mountPoint : List Char
  fsType : List Char
  options : List (List Char)
  dump : UInt64
  pass : UInt64
  named : device ≠ [] ∧ mountPoint ≠ [] ∧ fsType ≠ []
  plain : ∀ option ∈ options, option ≠ [] ∧ ',' ∉ option

namespace Mount

variable (mount : Mount)

def fields : List (List Char) := mount.device :: mount.mountPoint :: mount.fsType :: mount.options

def entry : MountEntry :=
  ⟨String.ofList mount.device, String.ofList mount.mountPoint, String.ofList mount.fsType, mount.options.map String.ofList⟩

def encodedEntry : MountEntry :=
  ⟨String.ofList (encode mount.device), String.ofList (encode mount.mountPoint), String.ofList (encode mount.fsType),
    mount.options.map fun option => String.ofList (encode option)⟩

def optionColumn : List Char := List.intercalate [','] (mount.options.map encode)

def line : List Char :=
  encode mount.device ++ ' ' :: (encode mount.mountPoint ++ ' ' :: (encode mount.fsType ++ ' ' ::
    (mount.optionColumn ++ ' ' :: (digits mount.dump ++ ' ' :: digits mount.pass))))

def Tabular : Prop :=
  mount.options ≠ [] ∧ ∀ field ∈ mount.fields, ∀ c ∈ field, isWhiteSpace c = true → c = ' ' ∨ c = '\t' ∨ c = '\n'

def Unescaped : Prop :=
  mount.options ≠ [] ∧ ∀ field ∈ mount.fields, ∀ c ∈ field, isWhiteSpace c = false ∧ c ≠ '\\'

end Mount

def mountTable (mounts : List Mount) : String := String.ofList (List.intercalate ['\n'] (mounts.map Mount.line ++ [[]]))

section Encoding

theorem encode_char_cases (c : Char) :
    (encodeChar c = [c] ∧ c ≠ ' ' ∧ c ≠ '\t' ∧ c ≠ '\n' ∧ c ≠ '\\') ∨
      ∃ octal, encodeChar c = '\\' :: octal ∧ octal.length = 3 ∧ ∀ d ∈ octal, d.isDigit = true := by
  by_cases space : c = ' '
  · exact Or.inr ⟨['0', '4', '0'], by simp [encodeChar, space], rfl, List.all_eq_true.mp rfl⟩
  · by_cases tab : c = '\t'
    · exact Or.inr ⟨['0', '1', '1'], by simp [encodeChar, tab], rfl, List.all_eq_true.mp rfl⟩
    · by_cases newline : c = '\n'
      · exact Or.inr ⟨['0', '1', '2'], by simp [encodeChar, newline], rfl, List.all_eq_true.mp rfl⟩
      · by_cases backslash : c = '\\'
        · exact Or.inr ⟨['1', '3', '4'], by simp [encodeChar, backslash], rfl, List.all_eq_true.mp rfl⟩
        · exact Or.inl ⟨by simp [encodeChar, space, tab, newline, backslash], space, tab, newline, backslash⟩

theorem mem_encode (field : List Char) (c : Char) (member : c ∈ encode field) :
    (c ∈ field ∧ c ≠ ' ' ∧ c ≠ '\t' ∧ c ≠ '\n') ∨ c = '\\' ∨ c.isDigit = true := by
  obtain ⟨source, inside, here⟩ := List.mem_flatMap.mp member
  cases encode_char_cases source with
  | inl kept =>
      obtain ⟨same, space, tab, newline, _⟩ := kept
      rw [same, List.mem_singleton] at here
      rw [here]
      exact Or.inl ⟨inside, space, tab, newline⟩
  | inr escaped =>
      obtain ⟨octal, shape, _, decimal⟩ := escaped
      rw [shape] at here
      cases List.mem_cons.mp here with
      | inl backslash => exact Or.inr (Or.inl backslash)
      | inr digit => exact Or.inr (Or.inr (decimal c digit))

theorem encode_solid (field : List Char)
    (tabular : ∀ c ∈ field, isWhiteSpace c = true → c = ' ' ∨ c = '\t' ∨ c = '\n') :
    ∀ c ∈ encode field, isWhiteSpace c = false := by
  intro c member
  cases mem_encode field c member with
  | inl kept =>
      obtain ⟨inside, space, tab, newline⟩ := kept
      apply eq_false_of_ne_true
      intro isBlank
      obtain same | same | same := tabular c inside isBlank
      · exact space same
      · exact tab same
      · exact newline same
  | inr escape =>
      cases escape with
      | inl backslash =>
          rw [backslash]
          rfl
      | inr decimal => exact digit_solid c decimal

theorem encode_without (field : List Char) (c : Char) (absent : c ∉ field) (backslash : c ≠ '\\')
    (letter : c.isDigit = false) : c ∉ encode field := by
  intro member
  cases mem_encode field c member with
  | inl kept => exact absent kept.1
  | inr escape =>
      cases escape with
      | inl same => exact backslash same
      | inr decimal =>
          rw [letter] at decimal
          cases decimal

theorem encode_unbroken (field : List Char) : '\n' ∉ encode field := by
  intro member
  cases mem_encode field '\n' member with
  | inl kept => exact kept.2.2.2 rfl
  | inr escape =>
      cases escape with
      | inl backslash => cases backslash
      | inr decimal => cases decimal

theorem encode_length (field : List Char) : field.length ≤ (encode field).length := by
  induction field with
  | nil => exact Nat.le_refl 0
  | cons c rest ih =>
      rw [encode, List.flatMap_cons, List.length_append, List.length_cons]
      change _ ≤ _ + (encode rest).length
      cases encode_char_cases c with
      | inl kept =>
          rw [kept.1, List.length_singleton]
          omega
      | inr escaped =>
          obtain ⟨octal, shape, _⟩ := escaped
          rw [shape, List.length_cons]
          omega

theorem encode_nonempty (field : List Char) (nonempty : field ≠ []) : encode field ≠ [] := by
  intro empty
  have bound := encode_length field
  rw [empty] at bound
  exact nonempty (List.eq_nil_of_length_eq_zero (Nat.le_zero.mp bound))

-- An escape makes a field longer, so only a field with nothing to escape is its own encoding.
theorem encode_eq_self_iff (field : List Char) :
    encode field = field ↔ ∀ c ∈ field, c ≠ ' ' ∧ c ≠ '\t' ∧ c ≠ '\n' ∧ c ≠ '\\' := by
  induction field with
  | nil => simp [encode]
  | cons c rest ih =>
      rw [encode, List.flatMap_cons, List.forall_mem_cons]
      change encodeChar c ++ encode rest = c :: rest ↔ _
      cases encode_char_cases c with
      | inl kept =>
          rw [kept.1, ← ih]
          simp [kept.2]
      | inr escaped =>
          obtain ⟨octal, shape, long, _⟩ := escaped
          apply Iff.intro
          · intro same
            have lengths := congrArg List.length same
            have bound := encode_length rest
            rw [shape, List.length_append, List.length_cons, List.length_cons, long] at lengths
            omega
          · intro unescaped
            obtain ⟨space, tab, newline, backslash⟩ := unescaped.1
            have kept : encodeChar c = [c] := by simp [encodeChar, space, tab, newline, backslash]
            rw [kept, List.cons.injEq] at shape
            rw [← shape.2] at long
            cases long

end Encoding

section Reading

theorem mount_entry_words (line device mountPoint fsType options : List Char) (rest : List (List Char))
    (cols : words isWhiteSpace line = device :: mountPoint :: fsType :: options :: rest) :
    mountEntry line = some ⟨String.ofList device, String.ofList mountPoint, String.ofList fsType,
      (options.splitOn ',').map String.ofList⟩ := by
  simp only [mountEntry, cols]
  exact if_neg (by simp)

theorem mount_entry_strip (line : List Char) : mountEntry (stripReturn line) = mountEntry line := by
  rw [mountEntry, mountEntry, words_strip_return]

theorem line_unbroken (mount : Mount) : '\n' ∉ mount.line := by
  have options : '\n' ∉ mount.optionColumn := by
    intro member
    cases mem_intercalate ',' _ '\n' member with
    | inl same => cases same
    | inr found =>
        obtain ⟨piece, here, inside⟩ := found
        obtain ⟨option, _, rfl⟩ := List.mem_map.mp here
        exact encode_unbroken option inside
  have decimal : ∀ value : UInt64, '\n' ∉ digits value := fun value member => by cases digits_digit value '\n' member
  simp [Mount.line, encode_unbroken, options, decimal]

theorem parse_mount_table (mounts : List Mount) :
    parseMounts (mountTable mounts) = mounts.filterMap fun mount => mountEntry mount.line := by
  have unbroken : ∀ line ∈ mounts.map Mount.line ++ [[]], '\n' ∉ line := by
    intro line member
    cases List.mem_append.mp member with
    | inl written =>
        obtain ⟨mount, _, rfl⟩ := List.mem_map.mp written
        exact line_unbroken mount
    | inr last =>
        rw [List.mem_singleton.mp last]
        exact List.not_mem_nil
  rw [parseMounts, mountTable, String.toList_ofList, lines_intercalate mountEntry rfl mount_entry_strip _ unbroken,
    List.filterMap_append, List.filterMap_map]
  exact List.append_nil _

theorem option_column_split (mount : Mount) (listed : mount.options ≠ []) :
    mount.optionColumn.splitOn ',' = mount.options.map encode := by
  apply List.splitOn_intercalate
  · intro piece member
    obtain ⟨option, here, rfl⟩ := List.mem_map.mp member
    exact encode_without option ',' (mount.plain option here).2 (by simp) rfl
  · intro empty
    exact listed (List.map_eq_nil_iff.mp empty)

theorem option_column_nonempty (mount : Mount) (listed : mount.options ≠ []) : mount.optionColumn ≠ [] := by
  intro empty
  have split := option_column_split mount listed
  rw [empty, List.splitOn_nil] at split
  cases options : mount.options with
  | nil => exact listed options
  | cons first rest =>
      rw [options, List.map_cons] at split
      have plain := mount.plain first (by simp [options])
      exact encode_nonempty first plain.1 (List.cons.inj split).1.symm

theorem mount_entry_line (mount : Mount) (tabular : mount.Tabular) : mountEntry mount.line = some mount.encodedEntry := by
  have solid : ∀ field ∈ mount.fields, ∀ c ∈ encode field, isWhiteSpace c = false :=
    fun field member => encode_solid field (tabular.2 field member)
  have options : ∀ c ∈ mount.optionColumn, isWhiteSpace c = false := by
    intro c member
    cases mem_intercalate ',' _ c member with
    | inl same =>
        rw [same]
        rfl
    | inr found =>
        obtain ⟨piece, here, inside⟩ := found
        obtain ⟨option, listed, rfl⟩ := List.mem_map.mp here
        exact solid option (by simp [Mount.fields, listed]) c inside
  obtain ⟨device, mountPoint, fsType⟩ := mount.named
  have cols := words_column (encode mount.device) (encode mount.mountPoint ++ ' ' :: (encode mount.fsType ++ ' ' ::
    (mount.optionColumn ++ ' ' :: (digits mount.dump ++ ' ' :: digits mount.pass)))) space_blank
    (solid _ (by simp [Mount.fields])) (encode_nonempty _ device)
  rw [words_column (encode mount.mountPoint) _ space_blank (solid _ (by simp [Mount.fields])) (encode_nonempty _ mountPoint),
    words_column (encode mount.fsType) _ space_blank (solid _ (by simp [Mount.fields])) (encode_nonempty _ fsType),
    words_column mount.optionColumn _ space_blank options (option_column_nonempty mount tabular.1)] at cols
  have read := mount_entry_words _ _ _ _ _ _ cols
  rw [option_column_split mount tabular.1, List.map_map] at read
  exact read

theorem mount_entry_made (line : List Char) (read : MountEntry) (made : mountEntry line = some read) :
    ∃ device mountPoint fsType options rest,
      words isWhiteSpace line = device :: mountPoint :: fsType :: options :: rest ∧
        read = ⟨String.ofList device, String.ofList mountPoint, String.ofList fsType,
          (options.splitOn ',').map String.ofList⟩ := by
  by_cases short : (words isWhiteSpace line).length < 4
  · have refused : mountEntry line = none := if_pos short
    rw [refused] at made
    cases made
  · cases cols : words isWhiteSpace line with
    | nil => simp [cols] at short
    | cons device others =>
        match others with
        | [] => simp [cols] at short
        | [_] => simp [cols] at short
        | [_, _] => simp [cols] at short
        | mountPoint :: fsType :: options :: rest =>
            rw [mount_entry_words line device mountPoint fsType options rest cols, Option.some.injEq] at made
            exact ⟨device, mountPoint, fsType, options, rest, rfl, made.symm⟩

theorem mount_entry_solid (line : List Char) (mount : Mount) (made : mountEntry line = some mount.entry) :
    mount.options ≠ [] ∧ ∀ field ∈ mount.fields, ∀ c ∈ field, isWhiteSpace c = false := by
  obtain ⟨device, mountPoint, fsType, options, rest, cols, read⟩ := mount_entry_made line mount.entry made
  have solid : ∀ word ∈ device :: mountPoint :: fsType :: options :: rest, ∀ c ∈ word, isWhiteSpace c = false := by
    intro word member
    rw [← cols] at member
    exact (words_mem member).2
  rw [Mount.entry, MountEntry.mk.injEq] at read
  obtain ⟨sameDevice, samePoint, sameType, sameOptions⟩ := read
  have split : mount.options = options.splitOn ',' :=
    List.map_injective_iff.mpr (fun _ _ same => String.ofList_injective same) sameOptions
  apply And.intro
  · rw [split]
    exact List.splitOn_ne_nil ',' options
  · intro field member
    rw [Mount.fields, String.ofList_injective sameDevice, String.ofList_injective samePoint,
      String.ofList_injective sameType, split] at member
    simp only [List.mem_cons] at member
    obtain same | same | same | piece := member
    · rw [same]
      exact solid device (by simp)
    · rw [same]
      exact solid mountPoint (by simp)
    · rw [same]
      exact solid fsType (by simp)
    · intro c inside
      exact solid options (by simp) c (split_piece options piece c inside).1

theorem encoded_entry_field (mount : Mount) (same : mount.encodedEntry = mount.entry) :
    ∀ field ∈ mount.fields, encode field = field := by
  rw [Mount.encodedEntry, Mount.entry, MountEntry.mk.injEq] at same
  obtain ⟨device, mountPoint, fsType, options⟩ := same
  intro field member
  simp only [Mount.fields, List.mem_cons] at member
  obtain rfl | rfl | rfl | listed := member
  · exact String.ofList_injective device
  · exact String.ofList_injective mountPoint
  · exact String.ofList_injective fsType
  · exact String.ofList_injective (List.map_inj_left.mp options field listed)

theorem unescaped_tabular (mount : Mount) (unescaped : mount.Unescaped) : mount.Tabular := by
  apply And.intro unescaped.1
  intro field member c inside isBlank
  rw [(unescaped.2 field member c inside).1] at isBlank
  cases isBlank

theorem unescaped_entry (mount : Mount) (unescaped : mount.Unescaped) : mount.encodedEntry = mount.entry := by
  have kept : ∀ field ∈ mount.fields, encode field = field := by
    intro field member
    apply (encode_eq_self_iff field).mpr
    intro c inside
    obtain ⟨solid, backslash⟩ := unescaped.2 field member c inside
    have printable : ∀ d : Char, isWhiteSpace d = true → c ≠ d := by
      intro d isBlank same
      rw [same, isBlank] at solid
      cases solid
    exact ⟨printable ' ' space_blank, printable '\t' rfl, printable '\n' newline_blank, backslash⟩
  have options : (mount.options.map fun option => String.ofList (encode option)) = mount.options.map String.ofList := by
    apply List.map_congr_left
    intro option member
    rw [kept option (by simp [Mount.fields, member])]
  rw [Mount.encodedEntry, Mount.entry, options, kept mount.device (by simp [Mount.fields]),
    kept mount.mountPoint (by simp [Mount.fields]), kept mount.fsType (by simp [Mount.fields])]

-- The columns are read as they stand, so the rows come back encoded, and the entries themselves come back just when there
-- is nothing to decode.
theorem parse_mounts_keeps_escapes (mounts : List Mount) :
    ((∀ mount ∈ mounts, mount.Tabular) → parseMounts (mountTable mounts) = mounts.map Mount.encodedEntry) ∧
      (parseMounts (mountTable mounts) = mounts.map Mount.entry ↔ ∀ mount ∈ mounts, mount.Unescaped) := by
  have encoded : (∀ mount ∈ mounts, mount.Tabular) → parseMounts (mountTable mounts) = mounts.map Mount.encodedEntry := by
    intro tabular
    rw [parse_mount_table, ← List.filterMap_eq_map]
    apply List.filterMap_congr
    intro mount member
    exact mount_entry_line mount (tabular mount member)
  apply And.intro encoded
  apply Iff.intro
  · intro decoded mount member
    have solid : ∀ other ∈ mounts, other.options ≠ [] ∧ ∀ field ∈ other.fields, ∀ c ∈ field, isWhiteSpace c = false := by
      intro other here
      have read : other.entry ∈ parseMounts (mountTable mounts) := by
        rw [decoded]
        exact List.mem_map_of_mem here
      obtain ⟨line, _, made⟩ := List.mem_filterMap.mp read
      exact mount_entry_solid line other made
    have tabular : ∀ other ∈ mounts, other.Tabular := by
      intro other here
      apply And.intro (solid other here).1
      intro field listed c inside isBlank
      rw [(solid other here).2 field listed c inside] at isBlank
      cases isBlank
    rw [encoded tabular] at decoded
    have same := List.map_inj_left.mp decoded mount member
    apply And.intro (solid mount member).1
    intro field listed c inside
    apply And.intro ((solid mount member).2 field listed c inside)
    exact ((encode_eq_self_iff field).mp (encoded_entry_field mount same field listed) c inside).2.2.2
  · intro unescaped
    rw [encoded fun mount member => unescaped_tabular mount (unescaped mount member)]
    apply List.map_congr_left
    intro mount member
    exact unescaped_entry mount (unescaped mount member)

def spacedMount : Mount :=
  ⟨"/dev/sdb1".toList, "/mnt/my disk".toList, "ext4".toList, ["rw".toList], 0, 0, by decide, by decide⟩

theorem spaced_mount_encoded : parseMounts (mountTable [spacedMount]) = [spacedMount].map Mount.encodedEntry := by
  apply (parse_mounts_keeps_escapes [spacedMount]).1
  have checked : (spacedMount.fields.all fun field => field.all fun c => !isWhiteSpace c || c == ' ') = true := by decide
  intro mount member
  rw [List.mem_singleton.mp member]
  apply And.intro
  · exact List.cons_ne_nil _ _
  · intro field listed c inside isBlank
    have here := List.all_eq_true.mp (List.all_eq_true.mp checked field listed) c inside
    left
    simpa [isBlank] using here

-- The format writes a no-break space as it is, and the reader takes it for the end of the column.
def brokenMount : Mount :=
  ⟨"/dev/sdb1".toList, "/mnt/a\u00a0b".toList, "ext4".toList, ["rw".toList], 0, 0, by decide, by decide⟩

theorem no_break_space_misread :
    parseMounts (mountTable [brokenMount]) = [⟨"/dev/sdb1", "/mnt/a", "b", ["ext4"]⟩] ∧
      ¬ ∀ mounts : List Mount, parseMounts (mountTable mounts) = mounts.map Mount.entry := by
  have read : parseMounts (mountTable [brokenMount]) = [⟨"/dev/sdb1", "/mnt/a", "b", ["ext4"]⟩] := by
    decide +kernel
  apply And.intro read
  intro decoded
  have same := decoded [brokenMount]
  rw [read] at same
  revert same
  decide

end Reading

end Hpc.Diag
