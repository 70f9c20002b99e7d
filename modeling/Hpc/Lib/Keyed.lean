import Mathlib.Data.List.Induction
import Mathlib.Data.List.Perm.Lattice
import Mathlib.Data.List.Sort
import Std.Data.ExtTreeMap

set_option autoImplicit false

namespace Hpc.Lib

variable {Key Value : Type} {cmp : Key → Key → Ordering} [Std.TransCmp cmp] (key : Value → Key)

def Rowwise (good : Key → Value → Prop) (table : Std.ExtTreeMap Key Value cmp) : Prop :=
  ∀ (id : Key) (value : Value), table[id]? = some value → good id value

def SelfKeyed (table : Std.ExtTreeMap Key Value cmp) : Prop := Rowwise (fun id value => key value = id) table

def values (table : Std.ExtTreeMap Key Value cmp) : List Value := table.toList.map Prod.snd

def tabulate (log : List Value) : Std.ExtTreeMap Key Value cmp :=
  log.foldl (fun table value => table.insert (key value) value) ∅

theorem fold_adds {State Item : Type} (step : State → Item → State) (holds : State → Prop) (adds : Item → Prop)
    (each : ∀ state item, holds (step state item) ↔ holds state ∨ adds item) (start : State) (items : List Item) :
    holds (items.foldl step start) ↔ holds start ∨ ∃ item ∈ items, adds item := by
  induction items generalizing start with
  | nil => simp
  | cons item rest ih =>
      rw [List.foldl_cons, ih, each]
      simp [or_assoc]

theorem fold_insert_lookup {Item Content : Type} (place : Item → Key) (content : Item → Content) (items : List Item)
    (start : Std.ExtTreeMap Key Content cmp) (query : Key) :
    (items.foldl (fun table item => table.insert (place item) (content item)) start)[query]? =
      ((items.reverse.find? fun item => cmp (place item) query == .eq).map content).or start[query]? := by
  induction items generalizing start with
  | nil => simp
  | cons item rest ih =>
      rw [List.foldl_cons, ih, List.reverse_cons, List.find?_append, Std.ExtTreeMap.getElem?_insert]
      cases later : rest.reverse.find? fun item => cmp (place item) query == .eq with
      | some found => simp
      | none => by_cases same : cmp (place item) query = .eq <;> simp [same]

theorem tabulate_append (log : List Value) (value : Value) :
    (tabulate key (log ++ [value]) : Std.ExtTreeMap Key Value cmp) = (tabulate key log).insert (key value) value := by
  rw [tabulate, List.foldl_append]
  rfl

section Rows

variable (good : Key → Value → Prop) (table : Std.ExtTreeMap Key Value cmp)

theorem rowwise_empty : Rowwise good (∅ : Std.ExtTreeMap Key Value cmp) := by
  intro id value found
  simp at found

theorem rowwise_erase (id : Key) (before : Rowwise good table) : Rowwise good (table.erase id) := by
  intro query found present
  rw [Std.ExtTreeMap.getElem?_erase] at present
  by_cases same : cmp id query = .eq
  · rw [if_pos same] at present
    cases present
  · rw [if_neg same] at present
    exact before query found present

theorem rowwise_map (after : Std.ExtTreeMap Key Value cmp) (change : Key → Value → Value) (before : Rowwise good table)
    (keeps : ∀ id value, good id value → good id (change id value))
    (changed : ∀ id : Key, after[id]? = (table[id]?).map (change id)) : Rowwise good after := by
  intro id value found
  obtain ⟨old, present, rfl⟩ := Option.map_eq_some_iff.mp ((changed id).symm.trans found)
  exact keeps id old (before id old present)

variable [Std.LawfulEqCmp cmp]

theorem rowwise_insert (id : Key) (value : Value) (before : Rowwise good table) (fresh : good id value) :
    Rowwise good (table.insert id value) := by
  intro query found present
  rw [Std.ExtTreeMap.getElem?_insert] at present
  by_cases same : cmp id query = .eq
  · rw [if_pos same] at present
    cases present
    exact Std.LawfulEqCmp.compare_eq_iff_eq.mp same ▸ fresh
  · rw [if_neg same] at present
    exact before query found present

end Rows

variable [Std.LawfulEqCmp cmp]

theorem map_insert {Out : Type} (table : Std.ExtTreeMap Key Value cmp) (id : Key) (value : Value) (f : Value → Out) :
    (table.insert id value).map (fun _ entry => f entry) = (table.map fun _ entry => f entry).insert id (f value) := by
  apply Std.ExtTreeMap.ext_getElem?
  intro query
  rw [Std.ExtTreeMap.getElem?_map, Std.ExtTreeMap.getElem?_insert, Std.ExtTreeMap.getElem?_insert,
    Std.ExtTreeMap.getElem?_map]
  by_cases same : cmp id query = .eq
  · rw [if_pos same, if_pos same, Option.map_some]
  · rw [if_neg same, if_neg same]

theorem map_erase {Out : Type} (table : Std.ExtTreeMap Key Value cmp) (id : Key) (f : Value → Out) :
    (table.erase id).map (fun _ entry => f entry) = (table.map fun _ entry => f entry).erase id := by
  apply Std.ExtTreeMap.ext_getElem?
  intro query
  rw [Std.ExtTreeMap.getElem?_map, Std.ExtTreeMap.getElem?_erase, Std.ExtTreeMap.getElem?_erase,
    Std.ExtTreeMap.getElem?_map]
  by_cases same : cmp id query = .eq
  · rw [if_pos same, if_pos same, Option.map_none]
  · rw [if_neg same, if_neg same]

theorem mem_values (table : Std.ExtTreeMap Key Value cmp) (value : Value) :
    value ∈ values table ↔ ∃ id : Key, table[id]? = some value := by
  simp only [values, List.mem_map, Prod.exists, exists_eq_right, Std.ExtTreeMap.mem_toList_iff_getElem?_eq_some]

theorem values_keys (table : Std.ExtTreeMap Key Value cmp) (keyed : SelfKeyed key table) :
    (values table).map key = table.keys := by
  rw [values, List.map_map, ← Std.ExtTreeMap.map_fst_toList_eq_keys]
  apply List.map_congr_left
  intro entry member
  exact keyed entry.1 entry.2 (Std.ExtTreeMap.mem_toList_iff_getElem?_eq_some.mp member)

theorem values_keys_nodup (table : Std.ExtTreeMap Key Value cmp) (keyed : SelfKeyed key table) :
    ((values table).map key).Nodup := by
  rw [values_keys key table keyed]
  exact Std.ExtTreeMap.distinct_keys.imp fun different same => different (Std.LawfulEqCmp.compare_eq_iff_eq.mpr same)

theorem tabulate_keyed (log : List Value) : SelfKeyed key (tabulate key log : Std.ExtTreeMap Key Value cmp) := by
  induction log using List.reverseRecOn with
  | nil => exact rowwise_empty _
  | append_singleton log value ih =>
      rw [tabulate_append]
      exact rowwise_insert _ _ _ _ ih rfl

theorem tabulate_mem_iff (log : List Value) (distinct : (log.map key).Nodup) (value : Value) :
    value ∈ values (tabulate key log : Std.ExtTreeMap Key Value cmp) ↔ value ∈ log := by
  rw [mem_values]
  induction log using List.reverseRecOn with
  | nil => simp [tabulate]
  | append_singleton log last ih =>
      rw [List.map_append, List.nodup_append] at distinct
      obtain ⟨earlier, _, apart⟩ := distinct
      have before := ih earlier
      rw [List.mem_append, List.mem_singleton, ← before, tabulate_append]
      apply Iff.intro
      · rintro ⟨id, present⟩
        rw [Std.ExtTreeMap.getElem?_insert] at present
        by_cases same : cmp (key last) id = .eq
        · rw [if_pos same] at present
          cases present
          exact Or.inr rfl
        · rw [if_neg same] at present
          exact Or.inl ⟨id, present⟩
      · rintro (⟨id, present⟩ | rfl)
        · refine ⟨id, ?_⟩
          have member : value ∈ log := before.mp ⟨id, present⟩
          have different : key last ≠ id := by
            rw [← tabulate_keyed key log id value present]
            exact fun same => apart (key value) (List.mem_map_of_mem member) (key last) (by simp) same.symm
          rw [Std.ExtTreeMap.getElem?_insert, if_neg (mt Std.LawfulEqCmp.compare_eq_iff_eq.mp different)]
          exact present
        · exact ⟨key value, by simp⟩

theorem tabulate_perm_iff (log : List Value) :
    (values (tabulate key log : Std.ExtTreeMap Key Value cmp)).Perm log ↔ (log.map key).Nodup := by
  have stored := values_keys_nodup key (tabulate key log : Std.ExtTreeMap Key Value cmp) (tabulate_keyed key log)
  apply Iff.intro
  · intro same
    exact (same.map key).nodup_iff.mp stored
  · intro distinct
    apply (List.perm_ext_iff_of_nodup (List.Nodup.of_map key stored) (List.Nodup.of_map key distinct)).mpr
    exact tabulate_mem_iff key log distinct

theorem sorted_values [LinearOrder Key] (table : Std.ExtTreeMap Key Value cmp) (keyed : SelfKeyed key table)
    (taken : List Value) (all : taken.Perm (values table)) :
    (taken.mergeSort fun a b => key a ≤ key b).Perm (values table) ∧
      ((taken.mergeSort fun a b => key a ≤ key b).map key).Pairwise (· < ·) := by
  have same : (taken.mergeSort fun a b => key a ≤ key b).Perm (values table) := (List.mergeSort_perm _ _).trans all
  have distinct : ((taken.mergeSort fun a b => key a ≤ key b).map key).Nodup :=
    (same.map key).nodup_iff.mpr (values_keys_nodup key table keyed)
  have transitive : IsTrans Value fun a b => key a ≤ key b := ⟨fun a b c first second => first.trans second⟩
  have total : Std.Total fun a b : Value => key a ≤ key b := ⟨fun a b => le_total (key a) (key b)⟩
  have ascending := List.pairwise_mergeSort' (fun a b : Value => key a ≤ key b) taken
  refine ⟨same, List.pairwise_map.mpr ?_⟩
  exact (ascending.and (List.pairwise_map.mp distinct)).imp fun ⟨below, different⟩ => lt_of_le_of_ne below different

end Hpc.Lib
