import Hpc.Lib.Keyed

set_option autoImplicit false

namespace Hpc.Lib

variable {Key Value : Type} {cmp : Key → Key → Ordering} [Std.TransCmp cmp] (key : Value → Key)

def sweep (due : Value → Bool) (mark : Value → Value) (table : Std.ExtTreeMap Key Value cmp) :
    Std.ExtTreeMap Key Value cmp × List Key :=
  (table.map fun _ value => if due value then mark value else value, ((values table).filter due).map key)

structure Settles (earlier later : Value → Bool) (mark : Value → Value) : Prop where
  keeps : ∀ value, key (mark value) = key value
  grows : ∀ value, earlier value = true → later value = true
  settled : ∀ value, later (mark value) = false

variable (due earlier later : Value → Bool) (mark : Value → Value) (table : Std.ExtTreeMap Key Value cmp)

section Table

variable [Std.LawfulEqCmp cmp]

theorem sweep_lookup (id : Key) :
    (sweep key due mark table).1[id]? = (table[id]?).map fun value => if due value then mark value else value := by
  rw [sweep, Std.ExtTreeMap.getElem?_map]

theorem due_after (settles : Settles key earlier later mark) (value : Value) :
    later (if earlier value then mark value else value) = true ↔ later value = true ∧ earlier value = false := by
  cases marked : earlier value with
  | true => simp [settles.settled value]
  | false => simp

theorem sweep_sweep_table (settles : Settles key earlier later mark) :
    (sweep key later mark (sweep key earlier mark table).1).1 = (sweep key later mark table).1 := by
  apply Std.ExtTreeMap.ext_getElem?
  intro id
  rw [sweep_lookup, sweep_lookup, sweep_lookup, Option.map_map]
  congr 1
  funext value
  cases marked : earlier value with
  | true => simp [marked, settles.settled value, settles.grows value marked]
  | false => simp [marked]

theorem sweep_keyed (keeps : ∀ value, key (mark value) = key value) (keyed : SelfKeyed key table) :
    SelfKeyed key (sweep key due mark table).1 := by
  apply rowwise_map _ table _ (fun _ value => if due value then mark value else value) keyed
  · intro id value own
    split
    · rw [keeps value, own]
    · exact own
  · exact sweep_lookup key due mark table

end Table

section Report

variable [Std.LawfulEqCmp cmp]

theorem mem_sweep (keyed : SelfKeyed key table) (id : Key) :
    id ∈ (sweep key due mark table).2 ↔ ∃ value, table[id]? = some value ∧ due value = true := by
  simp only [sweep, List.mem_map, List.mem_filter, mem_values]
  apply Iff.intro
  · intro reported
    obtain ⟨value, ⟨⟨other, found⟩, marked⟩, own⟩ := reported
    have same : other = id := (keyed other value found).symm.trans own
    exact ⟨value, same ▸ found, marked⟩
  · intro present
    obtain ⟨value, found, marked⟩ := present
    exact ⟨value, ⟨⟨id, found⟩, marked⟩, keyed id value found⟩

theorem sweep_nodup (keyed : SelfKeyed key table) : (sweep key due mark table).2.Nodup :=
  (values_keys_nodup key table keyed).sublist (List.filter_sublist.map key)

theorem sweep_idle (keyed : SelfKeyed key table)
    (idle : ∀ (id : Key) (value : Value), table[id]? = some value → due value = false) :
    sweep key due mark table = (table, []) := by
  apply Prod.ext
  · apply Std.ExtTreeMap.ext_getElem?
    intro id
    rw [sweep_lookup]
    cases found : table[id]? with
    | none => rfl
    | some value => simp [idle id value found]
  · apply List.eq_nil_iff_forall_not_mem.mpr
    intro id reported
    obtain ⟨value, found, marked⟩ := (mem_sweep key due mark table keyed id).mp reported
    simp [idle id value found] at marked

theorem sweep_again (settles : Settles key due due mark) (keyed : SelfKeyed key table) :
    sweep key due mark (sweep key due mark table).1 = ((sweep key due mark table).1, []) := by
  apply sweep_idle key due mark _ (sweep_keyed key due mark table settles.keeps keyed)
  intro id value found
  rw [sweep_lookup, Option.map_eq_some_iff] at found
  obtain ⟨old, _, rfl⟩ := found
  have after := due_after key due due mark settles old
  by_contra marked
  rw [Bool.not_eq_false, after] at marked
  simp [marked.1] at marked

theorem sweep_sweep_report (settles : Settles key earlier later mark) (keyed : SelfKeyed key table) :
    ((sweep key earlier mark table).2 ++ (sweep key later mark (sweep key earlier mark table).1).2).Perm
      (sweep key later mark table).2 := by
  have between := sweep_keyed key earlier mark table settles.keeps keyed
  have second (id : Key) : id ∈ (sweep key later mark (sweep key earlier mark table).1).2 ↔
      ∃ value, table[id]? = some value ∧ later value = true ∧ earlier value = false := by
    rw [mem_sweep key later mark _ between, sweep_lookup]
    simp only [Option.map_eq_some_iff, exists_exists_and_eq_and, due_after key earlier later mark settles]
  have distinct : ((sweep key earlier mark table).2 ++
      (sweep key later mark (sweep key earlier mark table).1).2).Nodup := by
    apply List.nodup_append.mpr
    apply And.intro (sweep_nodup key earlier mark table keyed)
    apply And.intro (sweep_nodup key later mark _ between)
    intro first inFirst other inSecond same
    obtain ⟨value, found, marked⟩ := (mem_sweep key earlier mark table keyed first).mp inFirst
    obtain ⟨again, present, _, unmarked⟩ := (second other).mp inSecond
    rw [← same, found, Option.some.injEq] at present
    rw [← present, marked] at unmarked
    cases unmarked
  apply (List.perm_ext_iff_of_nodup distinct (sweep_nodup key later mark table keyed)).mpr
  intro id
  rw [List.mem_append, second, mem_sweep key earlier mark table keyed, mem_sweep key later mark table keyed]
  apply Iff.intro
  · intro reported
    rcases reported with ⟨value, found, marked⟩ | ⟨value, found, marked, _⟩
    · exact ⟨value, found, settles.grows value marked⟩
    · exact ⟨value, found, marked⟩
  · intro reported
    obtain ⟨value, found, marked⟩ := reported
    cases before : earlier value with
    | true => exact Or.inl ⟨value, found, before⟩
    | false => exact Or.inr ⟨value, found, marked, before⟩

end Report

end Hpc.Lib
